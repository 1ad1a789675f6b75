import RecordSchema.Proofs.DataTypeText
import RecordSchema.Proofs.DefinitionText
import RecordSchema.Proofs.SessionIds
/-!
# What the definition reader accepts

A definition read from JSON text has only columns that read back: each data type was parsed,
so it is well formed, and each declared value type was found from a text, so it is found again
from its name. With `SchemaDefinition.ofText_write` this settles when a definition read from
text survives being written and read again.

* `ValueType.ofText_name_ofText` — a value type read from text is found again from its name;
* `Definition.readEntriesWith_preserves`, `Definition.readRecord_sound` — what every step of
  an object reader keeps, and what both forms of a record give, holds of the record read;
* `SchemaDefinition.ofText_readable` — every column of a definition read from text is readable;
* `SchemaDefinition.roundTrip_iff` — such a definition comes back equal, with an equal schema,
  exactly when no nullable column has a type whose display ends in the word `NULL`.
-/

namespace RecordSchema

namespace ValueType

/-- The built-in tags are found again from their names. -/
theorem ofText_name_builtIn : ∀ v ∈ builtIn, ofText v.name = v := by decide

theorem trimText_trimText (s : String) : Text.trimText (Text.trimText s) = Text.trimText s := by
  rw [Text.trimText, Text.trimText, String.toList_ofList, Text.trim_trim]

/-- A value type read from text is found again from its name. -/
theorem ofText_name_ofText (s : String) : ofText (ofText s).name = ofText s := by
  cases h : builtIn.find? (fun v => Text.sameIgnoringAsciiCase v.name (Text.trimText s)) with
  | some v =>
    have hv : ofText s = v := by simp only [ofText, h]
    rw [hv]
    exact ofText_name_builtIn v (List.mem_of_find?_eq_some h)
  | none =>
    have hv : ofText s = .other (Text.trimText s) := by simp only [ofText, h]
    rw [hv, name]
    simp only [ofText, trimText_trimText, h]

end ValueType

namespace Definition

open Json

/-! ## Object readers -/

section Preserves

variable {σ : Type} {step : σ → String → Cursor → Except TextFailure (σ × Cursor)}

/-- What every step keeps holds of the entries read from an object. -/
theorem readEntriesWith_preserves (P : σ → Prop)
    (hstep : ∀ acc key c acc' c', P acc → step acc key c = .ok (acc', c') → P acc') :
    ∀ fuel first acc c acc' c', P acc →
      readEntriesWith step fuel first acc c = .ok (acc', c') → P acc'
  | 0, _, _, _, _, _, _, h => by simp [readEntriesWith] at h
  | fuel + 1, first, acc, c, acc', c', hacc, h => by
    rw [readEntriesWith] at h
    dsimp only at h
    -- the reader stops at the closing brace, or reads a key and its value and goes on
    repeat' split at h
    all_goals try cases h
    all_goals first
      | exact hacc
      | exact readEntriesWith_preserves P hstep fuel false _ _ acc' c'
          (hstep _ _ _ _ _ hacc (by assumption)) h

/-- What both forms of a record give holds of the record read: the entries of an object, kept
by every step from `init` and then finished, or its fields in order in an array. -/
theorem readRecord_sound {α : Type} {expected : String} {depth : Nat} {init : σ}
    {finish : σ → Except DefinitionProblem α}
    {inOrder : Cursor → Except TextFailure (α × Cursor)} (P : σ → Prop) (Q : α → Prop)
    (hinit : P init)
    (hstep : ∀ acc key c acc' c', P acc → step acc key c = .ok (acc', c') → P acc')
    (hfinish : ∀ acc v, P acc → finish acc = .ok v → Q v)
    (hinOrder : ∀ c v c', inOrder c = .ok (v, c') → Q v) {c : Cursor} {v : α} {c' : Cursor}
    (h : readRecord expected depth init step finish inOrder c = .ok (v, c')) : Q v := by
  rw [readRecord] at h
  dsimp only at h
  -- only an object whose entries read and finish, or an array whose fields read and close,
  -- gives a record
  repeat' split at h
  all_goals try cases h
  all_goals
    rename_i hinner
    repeat' split at hinner
    all_goals try cases hinner
  · rename_i hfinished hentries
    exact hfinish _ v (readEntriesWith_preserves P hstep _ _ _ _ _ _ hinit hentries) hfinished
  · rename_i hfields _
    exact hinOrder _ v _ hfields

end Preserves
/-- An element of a record in array form is read by `read`, or taken from `absent` once the
array has ended. -/
theorem readElement_cases {α : Type} {first : Bool}
    {read : Cursor → Except TextFailure (α × Cursor)}
    {absent : Cursor → Except TextFailure α} {c : Cursor} {v : α} {c' : Cursor}
    (h : readElement first read absent c = .ok (v, c')) :
    (∃ c₁, read c₁ = .ok (v, c')) ∨ ∃ c₁, absent c₁ = .ok v := by
  obtain ⟨⟨more, c₁⟩, -, h⟩ := except_bind_eq_ok.1 h
  cases more with
  | true => exact Or.inl ⟨c₁, h⟩
  | false =>
    obtain ⟨w, hw, hpair⟩ := except_map_eq_ok.1 h
    cases hpair
    exact Or.inr ⟨_, hw⟩


end Definition

/-! ## Readable columns -/

/-- A column that reads back once written: its data type is well formed, and its declared
value type is found again from its name. -/
structure ColumnDefinition.Readable (col : ColumnDefinition) : Prop where
  wellFormed : col.dataType.WellFormed
  declaredType : ∀ t ∈ col.declaredType, ValueType.ofText t.name = t

namespace Definition

open Json

/-- The fields of a column read so far are those of a readable column. -/
structure ColumnFields.Readable (acc : ColumnFields) : Prop where
  dataType : ∀ t ∈ acc.dataType, t.WellFormed
  declaredType : ∀ t, acc.declaredType = some (some t) → ValueType.ofText t.name = t

theorem readDataType_wellFormed {c : Cursor} {t : DataType} {c' : Cursor}
    (h : readDataType c = .ok (t, c')) : t.WellFormed := by
  obtain ⟨⟨s, c₁⟩, -, h⟩ := except_bind_eq_ok.1 h
  dsimp only at h
  split at h
  · rename_i d hparse
    cases h
    exact DataType.wellFormed_of_parse hparse
  · cases h

theorem readDeclaredType_found {c : Cursor} {ot : Option ValueType} {c' : Cursor}
    (h : readDeclaredType c = .ok (ot, c')) : ∀ t ∈ ot, ValueType.ofText t.name = t := by
  intro t ht
  rw [readDeclaredType, readOptional] at h
  dsimp only at h
  split at h
  · -- `null` gives no value type
    simp only [lift] at h
    split at h
    · rename_i v hv
      cases h
      obtain ⟨w, -, hw⟩ := except_map_eq_ok.1 hv
      cases hw
      simp at ht
    · cases h
  · obtain ⟨⟨w, c₁⟩, hw, hpair⟩ := except_map_eq_ok.1 h
    obtain ⟨⟨s, c₂⟩, -, hs⟩ := except_map_eq_ok.1 hw
    simp only [Prod.mk.injEq] at hpair hs
    obtain ⟨rfl, -⟩ := hpair
    obtain ⟨rfl, -⟩ := hs
    rw [Option.mem_def, Option.some_inj] at ht
    subst ht
    exact ValueType.ofText_name_ofText s

/-- Every step of a column object keeps its fields readable. -/
theorem columnStep_readable {depth : Nat} {acc : ColumnFields} {key : String} {c : Cursor}
    {acc' : ColumnFields} {c' : Cursor} (hacc : acc.Readable)
    (h : columnStep depth acc key c = .ok (acc', c')) : acc'.Readable := by
  unfold columnStep at h
  split_ifs at h
  · -- the name
    obtain ⟨c₁, -, h⟩ := except_bind_eq_ok.1 h
    obtain ⟨⟨n, c₂⟩, -, h⟩ := except_bind_eq_ok.1 h
    cases h
    exact ⟨hacc.dataType, hacc.declaredType⟩
  · -- the data type
    obtain ⟨c₁, -, h⟩ := except_bind_eq_ok.1 h
    obtain ⟨⟨d, c₂⟩, hd, h⟩ := except_bind_eq_ok.1 h
    cases h
    refine ⟨fun t ht => ?_, hacc.declaredType⟩
    cases ht
    exact readDataType_wellFormed hd
  · -- the nullability
    obtain ⟨c₁, -, h⟩ := except_bind_eq_ok.1 h
    obtain ⟨⟨b, c₂⟩, -, h⟩ := except_bind_eq_ok.1 h
    cases h
    exact ⟨hacc.dataType, hacc.declaredType⟩
  · -- the declared value type
    obtain ⟨c₁, -, h⟩ := except_bind_eq_ok.1 h
    obtain ⟨⟨ot, c₂⟩, hot, h⟩ := except_bind_eq_ok.1 h
    cases h
    refine ⟨hacc.dataType, fun t ht => ?_⟩
    cases ht
    exact readDeclaredType_found hot t rfl

theorem ColumnFields.finish_readable {acc : ColumnFields} {col : ColumnDefinition}
    (hacc : acc.Readable) (h : acc.finish = .ok col) : col.Readable := by
  unfold ColumnFields.finish at h
  split at h
  · cases h
  · cases h
  · rename_i n d hn hd
    have hcol := Except.ok.inj h
    subst hcol
    refine ⟨hacc.dataType d hd, fun t ht => hacc.declaredType t ?_⟩
    cases hdecl : acc.declaredType with
    | none => simp [hdecl] at ht
    | some ot => simp_all

theorem columnInOrder_readable {depth : Nat} {c : Cursor} {col : ColumnDefinition} {c' : Cursor}
    (h : columnInOrder depth c = .ok (col, c')) : col.Readable := by
  unfold columnInOrder at h
  obtain ⟨⟨name, c₁⟩, -, h⟩ := except_bind_eq_ok.1 h
  obtain ⟨⟨dataType, c₂⟩, hdataType, h⟩ := except_bind_eq_ok.1 h
  obtain ⟨⟨nullable, c₃⟩, -, h⟩ := except_bind_eq_ok.1 h
  obtain ⟨⟨declaredType, c₄⟩, hdeclared, h⟩ := except_bind_eq_ok.1 h
  have hcol := (Prod.mk.inj (Except.ok.inj h)).1
  subst hcol
  constructor
  · rcases readElement_cases hdataType with ⟨c₅, hread⟩ | ⟨c₅, habsent⟩
    · exact readDataType_wellFormed hread
    · cases habsent
  · rcases readElement_cases hdeclared with ⟨c₅, hread⟩ | ⟨c₅, habsent⟩
    · exact readDeclaredType_found hread
    · cases habsent
      simp

/-- Every column read from text is readable, in either form. -/
theorem readColumn_readable {depth : Nat} {c : Cursor} {col : ColumnDefinition} {c' : Cursor}
    (h : readColumn depth c = .ok (col, c')) : col.Readable :=
  readRecord_sound ColumnFields.Readable ColumnDefinition.Readable ⟨by simp, by simp⟩
    (fun _ _ _ _ _ hacc hstep => columnStep_readable hacc hstep)
    (fun _ _ hacc hfinish => ColumnFields.finish_readable hacc hfinish)
    (fun _ _ _ hread => columnInOrder_readable hread) h

theorem readColumnItems_readable {depth : Nat} :
    ∀ fuel first (acc : List ColumnDefinition) c cols c', (∀ col ∈ acc, col.Readable) →
      readColumnItems depth fuel first acc c = .ok (cols, c') → ∀ col ∈ cols, col.Readable
  | 0, _, _, _, _, _, _, h => by simp [readColumnItems] at h
  | fuel + 1, first, acc, c, cols, c', hacc, h => by
    unfold readColumnItems at h
    obtain ⟨⟨more, c₁⟩, -, h⟩ := except_bind_eq_ok.1 h
    cases more with
    | false =>
      have hcols := (Prod.mk.inj (Except.ok.inj h)).1
      subst hcols
      intro col hcol
      exact hacc col (List.mem_reverse.1 hcol)
    | true =>
      obtain ⟨⟨col, c₂⟩, hcol, h⟩ := except_bind_eq_ok.1 h
      exact readColumnItems_readable fuel false (col :: acc) c₂ cols c'
        (List.forall_mem_cons.2 ⟨readColumn_readable hcol, hacc⟩) h

theorem readColumns_readable {depth : Nat} {c : Cursor} {cols : List ColumnDefinition}
    {c' : Cursor} (h : readColumns depth c = .ok (cols, c')) : ∀ col ∈ cols, col.Readable := by
  unfold readColumns at h
  dsimp only at h
  repeat' split at h
  all_goals try cases h
  rename_i hitems
  exact readColumnItems_readable _ _ [] _ _ _ (by simp) hitems

/-! ## Definitions read from text -/

/-- The columns of a definition read so far are readable. -/
def DefinitionFields.Readable (acc : DefinitionFields) : Prop :=
  ∀ cols ∈ acc.columns, ∀ col ∈ cols, col.Readable

theorem definitionStep_readable {depth : Nat} {acc : DefinitionFields} {key : String} {c : Cursor}
    {acc' : DefinitionFields} {c' : Cursor} (hacc : acc.Readable)
    (h : definitionStep depth acc key c = .ok (acc', c')) : acc'.Readable := by
  unfold definitionStep at h
  split_ifs at h
  · -- the collation
    obtain ⟨c₁, -, h⟩ := except_bind_eq_ok.1 h
    obtain ⟨⟨v, c₂⟩, -, h⟩ := except_bind_eq_ok.1 h
    cases h
    exact hacc
  · -- the policy
    obtain ⟨c₁, -, h⟩ := except_bind_eq_ok.1 h
    obtain ⟨⟨v, c₂⟩, -, h⟩ := except_bind_eq_ok.1 h
    cases h
    exact hacc
  · -- the columns
    obtain ⟨c₁, -, h⟩ := except_bind_eq_ok.1 h
    obtain ⟨⟨cs, c₂⟩, hcs, h⟩ := except_bind_eq_ok.1 h
    cases h
    intro cols hcols
    cases hcols
    exact readColumns_readable hcs

theorem definitionInOrder_readable {depth : Nat} {c : Cursor} {d : SchemaDefinition} {c' : Cursor}
    (h : definitionInOrder depth c = .ok (d, c')) : ∀ col ∈ d.columns, col.Readable := by
  unfold definitionInOrder at h
  obtain ⟨⟨collation, c₁⟩, -, h⟩ := except_bind_eq_ok.1 h
  obtain ⟨⟨ambiguity, c₂⟩, -, h⟩ := except_bind_eq_ok.1 h
  obtain ⟨⟨columns, c₃⟩, hcolumns, h⟩ := except_bind_eq_ok.1 h
  have hd := (Prod.mk.inj (Except.ok.inj h)).1
  subst hd
  rcases readElement_cases hcolumns with ⟨c₄, hread⟩ | ⟨c₄, habsent⟩
  · exact readColumns_readable hread
  · cases habsent
    simp

end Definition

open Definition in
/-- **Definitions read from text have readable columns.** Every column of a definition read
from JSON text, in object or array form, has a well-formed data type and a declared value type
found again from its name. -/
theorem SchemaDefinition.ofText_readable {s : String} {d : SchemaDefinition}
    (h : SchemaDefinition.ofText s = .ok d) : ∀ col ∈ d.columns, col.Readable := by
  unfold SchemaDefinition.ofText at h
  dsimp only at h
  split at h
  · cases h
  · rename_i d' c hread
    have hd : d' = d := by
      split at h
      · exact Except.ok.inj h
      · cases h
    subst hd
    refine readRecord_sound DefinitionFields.Readable (fun d => ∀ col ∈ d.columns, col.Readable)
      (by simp [DefinitionFields.Readable])
      (fun _ _ _ _ _ hacc hstep => definitionStep_readable hacc hstep)
      ?_ (fun _ _ _ hread => definitionInOrder_readable hread) hread
    intro acc v hacc hfinish
    cases hfinish
    intro col hcol
    cases hcols : acc.columns with
    | none => simp [DefinitionFields.finish, hcols] at hcol
    | some cols =>
      simp only [DefinitionFields.finish, hcols, Option.getD_some] at hcol
      exact hacc cols hcols col hcol

/-! ## The round trip -/

namespace ColumnDefinition

/-- A readable column is its own read back exactly when its display reads back as its data
type: unless it is nullable and its display ends in the word `NULL`. -/
theorem Readable.readBack_eq_self_iff {col : ColumnDefinition} (h : col.Readable) :
    col.readBack = some col ↔
      ¬(col.dataType.nullable = true ∧
        Text.endsWithWord "NULL" col.dataType.display = true) := by
  have hdeclared : col.declaredType.map (fun t => ValueType.ofText t.name) = col.declaredType := by
    cases hd : col.declaredType with
    | none => rfl
    | some t => simp [h.declaredType t (by simp [hd])]
  rw [← h.wellFormed.parse_display_iff, readBack, hdeclared]
  constructor
  · intro hback
    obtain ⟨dt, hdt, hcol⟩ := Option.map_eq_some_iff.1 hback
    have hdt' : dt = col.dataType := congrArg ColumnDefinition.dataType hcol
    subst hdt'
    cases hparse : DataType.parse col.dataType.display <;> simp_all [Except.toOption]
  · intro hparse
    simp [hparse, Except.toOption]

/-- Reading back every column of a list gives the list exactly when it gives each column. -/
theorem mapM_readBack_eq_self_iff (cols : List ColumnDefinition) :
    cols.mapM readBack = some cols ↔ ∀ col ∈ cols, col.readBack = some col := by
  induction cols with
  | nil => simp
  | cons col cols ih =>
    simp only [List.mapM_cons, List.forall_mem_cons, ← ih, Option.bind_eq_bind,
      Option.bind_eq_some_iff, Option.pure_def, Option.some.injEq, List.cons.injEq]
    constructor
    · rintro ⟨c, hc, cs, hcs, rfl, rfl⟩
      exact ⟨hc, hcs⟩
    · rintro ⟨hc, hcs⟩
      exact ⟨col, hc, cols, hcs, rfl, rfl⟩

end ColumnDefinition

/-- Every schema is equal to itself. -/
theorem Schema.equiv_self (s : Schema) : s.equiv s = true := by
  have hzip : ∀ fs : List Field, (fs.zip fs).all (fun p => Field.sameShape p.1 p.2) = true := by
    intro fs
    induction fs with
    | nil => rfl
    | cons f fs ih =>
      rw [List.zip_cons_cons, List.all_cons, ih]
      simp [Schema.Field.sameShape]
  simp [Schema.equiv, hzip]

theorem eq_ok_of_toOption {ε α : Type} {x : Except ε α} {a : α} (h : x.toOption = some a) :
    x = .ok a := by
  cases x <;> simp_all [Except.toOption]

open Definition in
/-- **The definition round trip.** A definition read from JSON text, written and read again,
comes back equal, with an equal schema, exactly when none of its nullable columns has a data
type whose display ends in the word `NULL`. Such a display reads that word as the nullability,
so the data type read again loses it, or reads as no type at all. -/
theorem SchemaDefinition.roundTrip_iff {s : String} {d : SchemaDefinition}
    (h : SchemaDefinition.ofText s = .ok d) :
    d.roundTrip = .ok ⟨Json.write d.toJson, true, true⟩ ↔
      ∀ col ∈ d.columns, ¬(col.dataType.nullable = true ∧
        Text.endsWithWord "NULL" col.dataType.display = true) := by
  have hreadable := ofText_readable h
  have hwrite := ofText_write d
  constructor
  · intro hround
    unfold SchemaDefinition.roundTrip at hround
    dsimp only at hround
    obtain ⟨d', hd', hresult⟩ := except_map_eq_ok.1 hround
    have hsame : (d == d') = true := congrArg RoundTrip.sameDefinition hresult
    obtain rfl : d = d' := beq_iff_eq.1 hsame
    rw [hd'] at hwrite
    obtain ⟨cols, hcols, hd⟩ := Option.map_eq_some_iff.1 hwrite.symm
    obtain rfl : cols = d.columns := congrArg SchemaDefinition.columns hd
    intro col hcol
    exact (hreadable col hcol).readBack_eq_self_iff.1
      ((ColumnDefinition.mapM_readBack_eq_self_iff _).1 hcols col hcol)
  · intro hall
    have hcols : d.columns.mapM ColumnDefinition.readBack = some d.columns :=
      (ColumnDefinition.mapM_readBack_eq_self_iff _).2 fun col hcol =>
        (hreadable col hcol).readBack_eq_self_iff.2 (hall col hcol)
    rw [hcols, Option.map_some] at hwrite
    have hok : SchemaDefinition.ofText (Json.write d.toJson) = .ok d := eq_ok_of_toOption hwrite
    simp [SchemaDefinition.roundTrip, hok, Except.map, Schema.equiv_self]

/-- A column with both overrides set comes back from the round trip. -/
theorem overridden_column_round_trips :
    SchemaDefinition.ofText
        "\x7b\"columns\":[\x7b\"name\":\"a\",\"type\":\"INTEGER\",\"nullable\":false,\"declaredType\":\"long\"\x7d]\x7d" =
      .ok { columns := [⟨⟨["a"], by simp, by simp⟩, { sqlType := .integer }, some false,
        some .long⟩] } ∧
    SchemaDefinition.roundTrip { columns := [⟨⟨["a"], by simp, by simp⟩,
        { sqlType := .integer }, some false, some .long⟩] } =
      .ok ⟨Json.write (SchemaDefinition.toJson { columns := [⟨⟨["a"], by simp, by simp⟩,
        { sqlType := .integer }, some false, some .long⟩] }), true, true⟩ := by
  have hread : SchemaDefinition.ofText
        "\x7b\"columns\":[\x7b\"name\":\"a\",\"type\":\"INTEGER\",\"nullable\":false,\"declaredType\":\"long\"\x7d]\x7d" =
      .ok { columns := [⟨⟨["a"], by simp, by simp⟩, { sqlType := .integer }, some false,
        some .long⟩] } :=
    eq_ok_of_toOption (by decide)
  exact ⟨hread, (SchemaDefinition.roundTrip_iff hread).2 (by decide)⟩

/-- The exception: a column typed `A NULL NULL` reads as the nullable vendor type `A NULL`, is
written as `A NULL`, and comes back as the vendor type `A`: neither the definition nor its
schema is the same. -/
theorem vendor_null_column_changes :
    (SchemaDefinition.ofText
        "\x7b\"columns\":[\x7b\"name\":\"a\",\"type\":\"A NULL NULL\"\x7d]\x7d").toOption =
      some { columns := [⟨⟨["a"], by simp, by simp⟩, { sqlType := .other "A NULL" }, none,
        none⟩] } ∧
    ((SchemaDefinition.roundTrip { columns := [⟨⟨["a"], by simp, by simp⟩,
        { sqlType := .other "A NULL" }, none, none⟩] }).toOption.map
      fun r => (r.sameDefinition, r.sameSchema)) = some (false, false) := by
  decide

end RecordSchema
