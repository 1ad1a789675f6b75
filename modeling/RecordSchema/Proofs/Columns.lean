import RecordSchema.Schema.Basic
/-!
# Schemas from columns

`Schema.ofColumns` makes a schema from a list of columns, each the parts of a name, a value
type and a data type. Names are made from the parts verbatim by `Name.new`, which refuses the
first empty part by its index and, only when no part is empty, a list without parts; the
schema refuses the first column whose parts are refused, by its index. This file says so
without the loops:

* `Name.IsParts` — a list of parts makes a name: it has a part and no part is empty;
* `Name.Refuses` — why `Name.new` refuses a list of parts: its first empty part, else that it
  has none; `Name.new_eq_error_iff` and `Name.new_eq_ok_iff` are `Name.new` stated with them;
* `Schema.FirstRefused` — the first column whose parts make no name, and why;
* `Schema.ofColumns_outcome` — the main statement: the refused column and its error when there
  is one, otherwise a case-sensitive schema with one field per column, holding the column's
  parts, value type and data type.
-/

namespace RecordSchema

namespace Name

/-- A list of parts makes a name: it has a part and no part is empty. -/
def IsParts (parts : List String) : Prop := parts ≠ [] ∧ ∀ p ∈ parts, p ≠ ""

/-- Why `Name.new` refuses a list of parts: the index of its first empty part or, when no part
is empty, that it has no parts. -/
inductive Refuses : List String → NameError → Prop
  /-- The part at `j` is empty and no part before it is. -/
  | emptyPart {parts : List String} {j : Nat} (hj : j < parts.length) (hempty : parts[j] = "")
      (hbefore : ∀ k (hk : k < j), parts[k] ≠ "") : Refuses parts (.emptyPart j)
  /-- There are no parts. -/
  | empty : Refuses [] .empty

/-- The parts of a name make a name. -/
theorem isParts_parts (n : Name) : IsParts n.parts := ⟨n.parts_ne_nil, n.part_ne_empty⟩

/-- A refused list of parts makes no name. -/
theorem Refuses.not_isParts {parts : List String} {e : NameError} (h : Refuses parts e) :
    ¬ IsParts parts := by
  rintro ⟨hne, hparts⟩
  cases h with
  | emptyPart hj hempty _ => exact hparts _ (List.getElem_mem hj) hempty
  | empty => exact hne rfl

/-- The first empty part is where `firstEmptyPart?` stops. -/
theorem firstEmptyPart?_eq_some_iff (parts : List String) (j : Nat) :
    firstEmptyPart? parts = some j ↔
      ∃ hj : j < parts.length, parts[j] = "" ∧ ∀ k (hk : k < j), parts[k] ≠ "" := by
  simp [firstEmptyPart?, List.findIdx?_eq_some_iff_getElem]

/-- `Name.new` accepts exactly the lists of parts of names, and keeps the parts verbatim. -/
theorem new_eq_ok_iff (parts : List String) (n : Name) : new parts = .ok n ↔ n.parts = parts := by
  constructor
  · intro h
    unfold new at h
    split at h
    · cases h
    · split at h
      · cases h
      · cases h
        rfl
  · rintro rfl
    exact new_parts n

/-- A list of parts that `Refuses` describes is refused by `Name.new` with that error. -/
theorem Refuses.new_eq {parts : List String} {e : NameError} (h : Refuses parts e) :
    new parts = .error e := by
  cases h with
  | @emptyPart _ j hj hempty hbefore =>
    have hfirst := (firstEmptyPart?_eq_some_iff parts j).2 ⟨hj, hempty, hbefore⟩
    unfold new
    split
    · rename_i j' hj'
      rw [hfirst, Option.some.injEq] at hj'
      rw [hj']
    · rename_i hnone
      rw [hfirst] at hnone
      cases hnone
  | empty => rfl

/-- Every list of parts `Name.new` refuses is refused as `Refuses` describes. -/
theorem refuses_of_new {parts : List String} {e : NameError} (h : new parts = .error e) :
    Refuses parts e := by
  unfold new at h
  split at h
  · rename_i j hj
    cases h
    obtain ⟨hlt, hempty, hbefore⟩ := (firstEmptyPart?_eq_some_iff parts j).1 hj
    exact .emptyPart hlt hempty hbefore
  · -- no part is empty: only an empty list is refused
    split at h
    · rename_i hnil
      cases h
      rw [hnil]
      exact .empty
    · cases h

/-- **Refusing parts.** `Name.new` refuses a list of parts with `e` exactly when `Refuses`
says so: the first empty part wins over an empty list. -/
theorem new_eq_error_iff (parts : List String) (e : NameError) :
    new parts = .error e ↔ Refuses parts e :=
  ⟨refuses_of_new, Refuses.new_eq⟩

end Name

/-- The column a field holds: the parts of its name, its value type and its data type. -/
def Field.column (f : Field) : List String × ValueType × DataType :=
  (f.name.parts, f.valueType, f.dataType)

namespace Schema

/-- The column at `i` is the first whose parts make no name, refused with `e`: every column
before it makes a name. -/
def FirstRefused (cols : List (List String × ValueType × DataType)) (i : Nat) (e : NameError) :
    Prop :=
  ∃ h : i < cols.length, Name.Refuses cols[i].1 e ∧ ∀ j (hj : j < i), Name.IsParts cols[j].1

section Columns

variable {c : List String × ValueType × DataType}
  {cols : List (List String × ValueType × DataType)} {e : NameError}

/-- The first column is the first refused one when its parts are refused. -/
theorem firstRefused_cons_zero : FirstRefused (c :: cols) 0 e ↔ Name.Refuses c.1 e := by
  simp [FirstRefused]

/-- A later column is the first refused one when the first column makes a name and the later
one is the first refused among the rest. -/
theorem firstRefused_cons_succ {i : Nat} :
    FirstRefused (c :: cols) (i + 1) e ↔ Name.IsParts c.1 ∧ FirstRefused cols i e := by
  constructor
  · rintro ⟨hlt, hrefused, hbefore⟩
    refine ⟨hbefore 0 (by omega), by simpa using hlt, by simpa using hrefused, fun j hj => ?_⟩
    simpa using hbefore (j + 1) (by omega)
  · rintro ⟨hhead, hlt, hrefused, hbefore⟩
    refine ⟨by simpa using hlt, by simpa using hrefused, fun j hj => ?_⟩
    cases j with
    | zero => simpa using hhead
    | succ j => simpa using hbefore j (by omega)

end Columns

/-- The columns numbered from `index` are refused exactly at the first column whose parts make no
name, by its number and `Name.new`'s error. -/
theorem fieldsOfColumns_eq_error_iff (src : IdSource) (index : Nat)
    (cols : List (List String × ValueType × DataType)) (err : SchemaError) :
    fieldsOfColumns src index cols = .error err ↔
      ∃ i e, FirstRefused cols i e ∧ err = .invalidName (index + i) e := by
  fun_induction fieldsOfColumns src index cols with
  | case1 =>
    refine ⟨fun h => (by cases h), ?_⟩
    rintro ⟨i, e, ⟨hlt, -⟩, -⟩
    simp at hlt
  | case2 src index parts vt dt rest e₀ hn =>
    -- the first column is refused, and is the first refused one
    have hr := Name.refuses_of_new hn
    constructor
    · rintro ⟨⟩
      exact ⟨0, e₀, firstRefused_cons_zero.2 hr, rfl⟩
    · rintro ⟨i, e, hfirst, rfl⟩
      cases i with
      | zero =>
        have he := (firstRefused_cons_zero.1 hfirst).new_eq
        rw [hn] at he
        cases he
        rfl
      | succ i => exact absurd (firstRefused_cons_succ.1 hfirst).1 hr.not_isParts
  | case3 src index parts vt dt rest n hn f src₁ _ gs src₂ hrest ih =>
    -- every column makes a name, so none is refused
    refine ⟨fun h => (by cases h), ?_⟩
    rintro ⟨i, e, hfirst, rfl⟩
    cases i with
    | zero =>
      have he := (firstRefused_cons_zero.1 hfirst).new_eq
      rw [hn] at he
      cases he
    | succ i =>
      have herr := ih.2 ⟨i, e, (firstRefused_cons_succ.1 hfirst).2, by congr 1; omega⟩
      rw [hrest] at herr
      cases herr
  | case4 src index parts vt dt rest n hn f src₁ _ e₁ hrest ih =>
    -- the first column makes a name, so the refused column is among the rest
    have hhead : Name.IsParts parts := (Name.new_eq_ok_iff parts n).1 hn ▸ Name.isParts_parts n
    rw [← hrest, ih]
    constructor
    · rintro ⟨i, e, hfirst, rfl⟩
      exact ⟨i + 1, e, firstRefused_cons_succ.2 ⟨hhead, hfirst⟩, by congr 1; omega⟩
    · rintro ⟨i, e, hfirst, rfl⟩
      cases i with
      | zero =>
        exact absurd hhead (firstRefused_cons_zero.1 hfirst).not_isParts
      | succ i => exact ⟨i, e, (firstRefused_cons_succ.1 hfirst).2, by congr 1; omega⟩

/-- The columns numbered from `index` are all made into fields exactly when the parts of every
column make a name. -/
theorem fieldsOfColumns_isOk_iff (src : IdSource) (index : Nat)
    (cols : List (List String × ValueType × DataType)) :
    (∃ r, fieldsOfColumns src index cols = .ok r) ↔ ∀ c ∈ cols, Name.IsParts c.1 := by
  fun_induction fieldsOfColumns src index cols with
  | case1 => simp
  | case2 src index parts vt dt rest e₀ hn =>
    refine ⟨fun ⟨_, h⟩ => (by cases h), fun hall => ?_⟩
    exact absurd (hall _ List.mem_cons_self) (Name.refuses_of_new hn).not_isParts
  | case3 src index parts vt dt rest n hn f src₁ _ gs src₂ hrest ih =>
    refine ⟨fun _ c hc => ?_, fun _ => ⟨_, rfl⟩⟩
    rcases List.mem_cons.1 hc with rfl | hc
    · exact (Name.new_eq_ok_iff parts n).1 hn ▸ Name.isParts_parts n
    · exact ih.1 ⟨_, hrest⟩ c hc
  | case4 src index parts vt dt rest n hn f src₁ _ e₁ hrest ih =>
    refine ⟨fun ⟨_, h⟩ => (by cases h), fun hall => ?_⟩
    obtain ⟨r, hr⟩ := ih.2 fun c hc => hall c (List.mem_cons_of_mem _ hc)
    rw [hrest] at hr
    cases hr

/-- The fields made from columns hold the columns verbatim, in their order. -/
theorem fieldsOfColumns_columns {src : IdSource} {index : Nat}
    {cols : List (List String × ValueType × DataType)} {fs : List Field} {src' : IdSource}
    (h : fieldsOfColumns src index cols = .ok (fs, src')) : fs.map Field.column = cols := by
  fun_induction fieldsOfColumns src index cols generalizing fs src' with
  | case1 =>
    cases h
    rfl
  | case2 => cases h
  | case3 src index parts vt dt rest n hn f src₁ hcreate gs src₂ hrest ih =>
    cases h
    -- the new field holds the name made from the parts, which are the parts themselves
    have hmade : (Field.create src n vt dt).1 = f := congrArg Prod.fst hcreate
    have hf : f.column = (parts, vt, dt) := by
      rw [← hmade, ← (Name.new_eq_ok_iff parts n).1 hn]
      rfl
    rw [List.map_cons, hf, ih hrest]
  | case4 => cases h

/-- `ofColumns` is refused as its columns are. -/
theorem ofColumns_eq_error_iff (src : IdSource) (cols : List (List String × ValueType × DataType))
    (err : SchemaError) :
    ofColumns src cols = .error err ↔ fieldsOfColumns src 0 cols = .error err := by
  unfold ofColumns
  cases fieldsOfColumns src 0 cols <;> simp [Except.map]

/-- `ofColumns` makes the schema of the fields of its columns, under the default collation and
policy. -/
theorem ofColumns_eq_ok_iff (src : IdSource) (cols : List (List String × ValueType × DataType))
    (sc : Schema) (src' : IdSource) :
    ofColumns src cols = .ok (sc, src') ↔
      ∃ fs, fieldsOfColumns src 0 cols = .ok (fs, src') ∧ sc = { fields := fs } := by
  unfold ofColumns
  cases fieldsOfColumns src 0 cols with
  | error e => simp [Except.map]
  | ok r =>
    obtain ⟨fs, src₁⟩ := r
    simp only [Except.map, Except.ok.injEq, Prod.mk.injEq]
    constructor
    · rintro ⟨rfl, rfl⟩
      exact ⟨fs, ⟨rfl, rfl⟩, rfl⟩
    · rintro ⟨fs', ⟨rfl, rfl⟩, rfl⟩
      exact ⟨rfl, rfl⟩

/-- **Schemas from columns.** `Name.new` refuses a list of parts exactly as `Name.Refuses`
says: at its first empty part, else for having no part. A list of columns is refused exactly
with the index of the first column whose parts make no name and `Name.new`'s error for them;
it is accepted exactly when the parts of every column make a name, and then gives a
case-sensitive schema that warns on ambiguity, with one field per column holding the column's
parts verbatim, its value type and its data type. -/
theorem ofColumns_outcome (src : IdSource) (cols : List (List String × ValueType × DataType)) :
    (∀ parts e, Name.new parts = .error e ↔ Name.Refuses parts e) ∧
      (∀ err, ofColumns src cols = .error err ↔
        ∃ i e, FirstRefused cols i e ∧ err = .invalidName i e) ∧
      ((∃ r, ofColumns src cols = .ok r) ↔ ∀ c ∈ cols, Name.IsParts c.1) ∧
      ∀ sc src', ofColumns src cols = .ok (sc, src') →
        sc.collation = .caseSensitive ∧ sc.policy = .warn ∧ sc.degree = cols.length ∧
          sc.fields.map Field.column = cols := by
  refine ⟨Name.new_eq_error_iff, fun err => ?_, ?_, fun sc src' h => ?_⟩
  · rw [ofColumns_eq_error_iff, fieldsOfColumns_eq_error_iff]
    simp only [Nat.zero_add]
  · rw [← fieldsOfColumns_isOk_iff src 0 cols]
    constructor
    · rintro ⟨⟨sc, src'⟩, h⟩
      obtain ⟨fs, hfs, -⟩ := (ofColumns_eq_ok_iff src cols sc src').1 h
      exact ⟨_, hfs⟩
    · rintro ⟨⟨fs, src'⟩, hfs⟩
      exact ⟨_, (ofColumns_eq_ok_iff src cols _ src').2 ⟨fs, hfs, rfl⟩⟩
  · obtain ⟨fs, hfs, rfl⟩ := (ofColumns_eq_ok_iff src cols sc src').1 h
    have hmap := fieldsOfColumns_columns hfs
    refine ⟨rfl, rfl, ?_, hmap⟩
    rw [degree, ← hmap, List.length_map]

/-- Of two refused columns the first is reported, by its first empty part; the empty list of
parts after it is never reached. -/
example :
    ofColumns {} [(["public", "orders", "id"], .long, { sqlType := .bigInt }),
      (["public", "", "x"], .int, { sqlType := .integer }), ([], .int, { sqlType := .integer })] =
      .error (.invalidName 1 (.emptyPart 1)) := rfl

end Schema

end RecordSchema
