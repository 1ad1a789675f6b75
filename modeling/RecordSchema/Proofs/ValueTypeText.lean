import RecordSchema.Proofs.DefinitionRead
/-!
# Value types read back from their names, unless a vendor name spells a tag

A value type is written as its name and read with `ValueType.ofText`, which trims the text and
recognises the seventeen built-in names ignoring ASCII case. Reading the name of a built-in tag
gives the tag back, and so does reading the name of a vendor tag that the reader itself made.
But a vendor SQL type keeps its name as a vendor value type, and the SQL name reader knows
fewer names than the value type reader: the SQL type named `long` is a vendor type whose value
type is the vendor tag `long`, and the name `long` reads as the built-in tag `long`.

* `ValueType.shadowsBuiltIn` — a vendor tag whose name spells a built-in tag, ASCII case
  ignored;
* `ValueType.ofText_name_eq_iff` — a value type whose vendor name is trimmed reads back from
  its name exactly when it is not such a tag;
* `SqlType.valueType_ofName_trimmed`, `DataType.sqlType_of_parse` — the SQL types the
  readers make are named by trimmed texts; with `ValueType.ofText_name_ofText`, every value
  type read from a text reads back;
* `ValueType.name_reads_back` — the main statement, over every value type the library makes;
* `ValueType.vendor_long_reads_as_long` — the exception, at the SQL type name `long`.
-/

namespace RecordSchema

open Text

namespace ValueType

/-- A vendor tag whose name spells a built-in tag, ASCII case ignored. -/
def shadowsBuiltIn : ValueType → Bool
  | .other n => builtIn.any fun b => sameIgnoringAsciiCase b.name n
  | _ => false

/-- No built-in tag is a vendor tag. -/
theorem ne_other_of_mem_builtIn {v : ValueType} (hv : v ∈ builtIn) (n : String) :
    v ≠ .other n := by
  rintro rfl
  simp [builtIn] at hv

/-- A text whose trimmed form spells a built-in name reads as the first tag it spells. -/
theorem ofText_of_find?_some {s : String} {v : ValueType}
    (h : builtIn.find? (fun b => sameIgnoringAsciiCase b.name (trimText s)) = some v) :
    ofText s = v := by
  simp only [ofText, h]

/-- A text whose trimmed form spells no built-in name reads as the vendor tag of that form. -/
theorem ofText_of_find?_none {s : String}
    (h : builtIn.find? (fun b => sameIgnoringAsciiCase b.name (trimText s)) = none) :
    ofText s = .other (trimText s) := by
  simp only [ofText, h]

/-- A trimmed text that spells no built-in name reads as the vendor tag of that text, and one
that spells a built-in name reads as a built-in tag. -/
theorem ofText_other_iff {n : String} (htrim : trimText n = n) :
    ofText n = .other n ↔ (ValueType.other n).shadowsBuiltIn = false := by
  simp only [shadowsBuiltIn, List.any_eq_false]
  cases hfind : builtIn.find? (fun b => sameIgnoringAsciiCase b.name n) with
  | none =>
    -- no built-in name is spelled, so the reader keeps the vendor tag
    rw [← htrim] at hfind
    rw [ofText_of_find?_none hfind, htrim]
    rw [htrim, List.find?_eq_none] at hfind
    exact iff_of_true rfl hfind
  | some v =>
    -- a built-in name is spelled, and the reader answers with that built-in tag
    have hv := List.mem_of_find?_eq_some hfind
    have hspell := List.find?_some hfind
    rw [← htrim] at hfind
    rw [ofText_of_find?_some hfind]
    exact iff_of_false (ne_other_of_mem_builtIn hv n) fun hnone => hnone v hv hspell

/-- **Reading a name back.** A value type whose vendor name, if it has one, is trimmed reads
back from its name exactly when it is not a vendor tag spelling a built-in tag. -/
theorem ofText_name_eq_iff (v : ValueType) (htrim : ∀ n, v = .other n → trimText n = n) :
    ofText v.name = v ↔ v.shadowsBuiltIn = false := by
  cases v
  case other n => exact ofText_other_iff (htrim n rfl)
  all_goals exact iff_of_true (ofText_name_builtIn _ (by simp [builtIn])) rfl

end ValueType

/-- A SQL type's value type is a vendor tag exactly when the SQL type is a vendor type of that
name. -/
theorem SqlType.valueType_eq_other_iff (t : SqlType) (n : String) :
    t.valueType = .other n ↔ t = .other n := by
  cases t <;> simp [valueType]

/-- A vendor tag read as a SQL type's value type is named by a trimmed text. -/
theorem SqlType.valueType_ofName_trimmed (s : String) :
    ∀ n, (ofName s).valueType = .other n → trimText n = n := by
  intro n hn
  rw [valueType_eq_other_iff] at hn
  rcases ofName_cases s with hstd | hother
  · rw [hn] at hstd
    simp [standard] at hstd
  · rw [hn, other.injEq] at hother
    rw [hother, ValueType.trimText_trimText]

/-- A data type read from a text has the SQL type that some text names. -/
theorem DataType.sqlType_of_parse {s : String} {t : DataType} (h : parse s = .ok t) :
    ∃ x, t.sqlType = SqlType.ofName x := by
  obtain ⟨ws, -, -, -, hreads⟩ := reads_of_parse h
  -- the grammar names the type by its text before the arguments, which keep it
  generalize (" ".intercalate ws).toList = cs at hreads
  generalize t.nullable = nullable at hreads
  cases hreads with
  | name => exact ⟨String.ofList cs, by dsimp only⟩
  | @arguments text _ _ _ _ _ _ happly =>
    -- `dsimp`, not unification: unifying the type with a lookup would evaluate the lookup
    have hsql := (withArguments_eq_ok happly).1
    dsimp only at hsql
    exact ⟨String.ofList text, hsql⟩

namespace ValueType

/-- **Value types read back from their names, unless a vendor name spells a tag.** Every value
type read from a text reads back from its name. The value type of a SQL type read from a
name, and of a data type read from a text, reads back from its name exactly when it is not a
vendor tag whose name spells a built-in tag, ASCII case ignored. -/
theorem name_reads_back :
    (∀ s, ofText (ofText s).name = ofText s) ∧
      (∀ s, ofText (SqlType.ofName s).valueType.name = (SqlType.ofName s).valueType ↔
        (SqlType.ofName s).valueType.shadowsBuiltIn = false) ∧
      ∀ s d, DataType.parse s = .ok d →
        (ofText d.valueType.name = d.valueType ↔ d.valueType.shadowsBuiltIn = false) := by
  refine ⟨ofText_name_ofText, fun s => ?_, fun s d hd => ?_⟩
  · exact ofText_name_eq_iff _ (SqlType.valueType_ofName_trimmed s)
  · obtain ⟨x, hx⟩ := DataType.sqlType_of_parse hd
    have hvt : d.valueType = (SqlType.ofName x).valueType := by
      rw [DataType.valueType, hx]
    rw [hvt]
    exact ofText_name_eq_iff _ (SqlType.valueType_ofName_trimmed x)

/-- The data type `money NOT NULL` has the vendor value type `money`, which reads back. -/
theorem money_type_reads_back :
    DataType.parse "money NOT NULL" = .ok { sqlType := .other "money", nullable := false } ∧
      (ofText (DataType.valueType { sqlType := .other "money", nullable := false }).name =
          DataType.valueType { sqlType := .other "money", nullable := false } ↔
        (DataType.valueType { sqlType := .other "money", nullable := false }).shadowsBuiltIn =
          false) := by
  have hparse : DataType.parse "money NOT NULL" =
      .ok { sqlType := .other "money", nullable := false } := by decide
  exact ⟨hparse, name_reads_back.2.2 _ _ hparse⟩

/-- The SQL type name `long` is not a standard name, so it is the vendor type `long`, whose
value type is the vendor tag `long`; that tag's name reads as the built-in tag `long`. -/
theorem vendor_long_reads_as_long :
    (SqlType.ofName "long").valueType = .other "long" ∧
      ofText (SqlType.ofName "long").valueType.name = .long ∧
      ofText (SqlType.ofName "long").valueType.name ≠ (SqlType.ofName "long").valueType := by
  decide

end ValueType

end RecordSchema
