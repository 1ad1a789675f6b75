import RecordSchema.Definition.OfText
import RecordSchema.Proofs.JsonText
/-!
# Written definitions read back

What the one-pass definition reader gives on the text the JSON writer produces. Started on a
written value, each reader either gives a value and stops right after the written value, or
fails; `Definition.ReadsTo` says which, the value expected being an `Option`. The readers of
values compose through the readers of object entries, records and arrays:

* `Definition.readEntriesWith_written` — the entries of a written object are read as the fold
  of a step over them, as long as the step reads each entry as expected;
* `Definition.readColumn_written` — a written column reads as the column with its data type
  read again from its display and its declared type from its name;
* `SchemaDefinition.ofText_write` — a written definition reads as the definition with each
  column read back so.
-/

namespace RecordSchema

namespace Definition

open Json

/-- A text reading gives `x` and stops before `rest` when `x` is a value, and fails when `x`
is `none`. -/
def ReadsTo {α : Type} (r : Except TextFailure (α × Cursor)) (rest : List Char) :
    Option α → Prop
  | some x => ∃ c, r = .ok (x, c) ∧ c.rest = rest
  | none => ∃ f, r = .error f

@[simp] theorem readsTo_some {α : Type} {r : Except TextFailure (α × Cursor)} {rest : List Char}
    {x : α} : ReadsTo r rest (some x) ↔ ∃ c, r = .ok (x, c) ∧ c.rest = rest := Iff.rfl

@[simp] theorem readsTo_none {α : Type} {r : Except TextFailure (α × Cursor)}
    {rest : List Char} : ReadsTo r rest none ↔ ∃ f, r = .error f := Iff.rfl

/-! ## Values -/

theorem toList_quote_append (s : String) (rest : List Char) :
    (quote s).toList ++ rest = '"' :: (s.toList.flatMap escapeChar ++ '"' :: rest) := by
  simp [toList_quote]

/-- A written string reads as a text. -/
theorem readText_quote {c : Cursor} {s : String} {rest : List Char}
    (hc : c.rest = (quote s).toList ++ rest) (expected : String) :
    ∃ c', readText expected c = .ok (s, c') ∧ c'.rest = rest := by
  rw [toList_quote_append] at hc
  have hchars : c.advance.rest = s.toList.flatMap escapeChar ++ '"' :: rest := by simp [hc]
  obtain ⟨c', hread, hrest⟩ := readString_escaped hchars
  refine ⟨c', ?_, hrest⟩
  rw [readText, Cursor.skipBlanks_of_cons hc (by decide), hc]
  simp [lift, hread]

theorem readColon_colon {c : Cursor} {rest : List Char} (hc : c.rest = ':' :: rest) :
    readColon c = .ok c.advance := by
  rw [readColon, Cursor.skipBlanks_of_cons hc (by decide), hc]
  rfl

/-- The value of an entry: a colon, then what `reader` reads, kept as `f` of it. -/
theorem readsTo_afterColon {α β : Type} {reader : Cursor → Except TextFailure (α × Cursor)}
    (f : α → β) {c : Cursor} {cs rest : List Char} {x : Option α} (hc : c.rest = ':' :: cs)
    (hread : ReadsTo (reader c.advance) rest x) :
    ReadsTo (do let (v, c) ← reader (← readColon c); .ok (f v, c)) rest (x.map f) := by
  rw [readColon_colon hc]
  cases x with
  | none =>
    obtain ⟨e, he⟩ := hread
    exact ⟨e, by simp [bind, Except.bind, he]⟩
  | some v =>
    obtain ⟨c', hok, hrest⟩ := hread
    exact ⟨c', by simp [bind, Except.bind, hok], hrest⟩

/-- A written spelling reads as the case of the enumeration it names, if any. -/
theorem readVariant_quote {α : Type} (cases : List (String × α)) (depth : Nat) {c : Cursor}
    {s : String} {rest : List Char} (hc : c.rest = (quote s).toList ++ rest) :
    ReadsTo (readVariant cases depth c) rest (variantOf cases s).toOption := by
  obtain ⟨c', hread, hrest⟩ := readText_quote hc "variant identifier"
  rw [toList_quote_append] at hc
  rw [readVariant, Cursor.skipBlanks_of_cons hc (by decide), hc]
  simp only [readSpelling, hread]
  cases variantOf cases s with
  | error p => exact ⟨_, rfl⟩
  | ok v => exact ⟨c', rfl, hrest⟩

theorem readWord_append : ∀ (w : List Char) {c : Cursor} {rest : List Char},
    c.rest = w ++ rest → ∃ c', readWord w c = .ok c' ∧ c'.rest = rest
  | [], c, _, hc => ⟨c, rfl, hc⟩
  | x :: w, c, rest, hc => by
    have hnext : c.advance.rest = w ++ rest := by simp [hc]
    obtain ⟨c', hread, hrest⟩ := readWord_append w hnext
    refine ⟨c', ?_, hrest⟩
    rw [readWord, hc]
    simp [hread]

/-- A written flag reads back. -/
theorem readFlag_write {c : Cursor} {b : Bool} {rest : List Char}
    (hc : c.rest = (write (.bool b)).toList ++ rest) :
    ∃ c', readFlag c = .ok (b, c') ∧ c'.rest = rest := by
  cases b with
  | false =>
    have hc' : c.rest = 'f' :: (['a', 'l', 's', 'e'] ++ rest) := hc
    have hnext : c.advance.rest = ['a', 'l', 's', 'e'] ++ rest := by simp [hc']
    obtain ⟨c', hword, hrest⟩ := readWord_append _ hnext
    refine ⟨c', ?_, hrest⟩
    rw [readFlag, Cursor.skipBlanks_of_cons hc' (by decide), hc']
    simp [lift, hword, Except.map]
  | true =>
    have hc' : c.rest = 't' :: (['r', 'u', 'e'] ++ rest) := hc
    have hnext : c.advance.rest = ['r', 'u', 'e'] ++ rest := by simp [hc']
    obtain ⟨c', hword, hrest⟩ := readWord_append _ hnext
    refine ⟨c', ?_, hrest⟩
    rw [readFlag, Cursor.skipBlanks_of_cons hc' (by decide), hc']
    simp [lift, hword, Except.map]

/-- An optional value that does not start with `n` is present, read by `inner`. -/
theorem readOptional_of_head {α : Type} (inner : Cursor → Except TextFailure (α × Cursor))
    {c : Cursor} {ch : Char} {tail : List Char} (hc : c.rest = ch :: tail) (hch : ch ≠ 'n')
    (hblank : Cursor.isBlank ch = false) :
    readOptional inner c = (inner c).map fun (v, c) => (some v, c) := by
  rw [readOptional, Cursor.skipBlanks_of_cons hc hblank, hc]
  simp [hch]

/-- A written flag reads as a present flag. -/
theorem readOptional_readFlag_write {c : Cursor} {b : Bool} {rest : List Char}
    (hc : c.rest = (write (.bool b)).toList ++ rest) :
    ∃ c', readOptional readFlag c = .ok (some b, c') ∧ c'.rest = rest := by
  obtain ⟨c', hflag, hrest⟩ := readFlag_write hc
  obtain ⟨ch, tail, hhead, hch, hblank⟩ : ∃ ch tail, c.rest = ch :: tail ∧ ch ≠ 'n' ∧
      Cursor.isBlank ch = false := by
    cases b
    · exact ⟨'f', _, hc, by decide, by decide⟩
    · exact ⟨'t', _, hc, by decide, by decide⟩
  refine ⟨c', ?_, hrest⟩
  rw [readOptional_of_head readFlag hhead hch hblank, hflag]
  rfl

/-- A written value type name reads as a present value type, found again from its name. -/
theorem readDeclaredType_quote {c : Cursor} {s : String} {rest : List Char}
    (hc : c.rest = (quote s).toList ++ rest) :
    ∃ c', readDeclaredType c = .ok (some (ValueType.ofText s), c') ∧ c'.rest = rest := by
  obtain ⟨c', hread, hrest⟩ := readText_quote hc "a string"
  rw [toList_quote_append] at hc
  refine ⟨c', ?_, hrest⟩
  rw [readDeclaredType, readOptional_of_head _ hc (by decide) (by decide)]
  simp [hread, Except.map]

/-- A written data type reads as its text parsed, if it parses. -/
theorem readDataType_quote {c : Cursor} {s : String} {rest : List Char}
    (hc : c.rest = (quote s).toList ++ rest) :
    ReadsTo (readDataType c) rest (DataType.parse s).toOption := by
  obtain ⟨c', hread, hrest⟩ := readText_quote hc "a string"
  rw [readDataType, hread]
  simp only [bind, Except.bind]
  cases DataType.parse s with
  | error e => exact ⟨_, rfl⟩
  | ok d => exact ⟨c', rfl, hrest⟩

theorem nameOfJson_toJson (n : Name) : nameOfJson n.toJson = .ok n := by
  rw [Name.toJson, nameOfJson, allStrings_map_string]
  simp only [Name.new_parts]

/-- A written name reads back, inside fewer than the most arrays and objects allowed. -/
theorem readName_write {c : Cursor} {n : Name} {rest : List Char}
    (hc : c.rest = (write n.toJson).toList ++ rest) {depth : Nat} (hdepth : depth < maxDepth) :
    ∃ c', readName depth c = .ok (n, c') ∧ c'.rest = rest := by
  -- the written array is longer than the number of its items
  have hfuel : 2 * n.parts.length + 2 < fuelFor c := by
    have hitems := length_le_writeItems (n.parts.map .string)
    rw [Name.toJson, write] at hc
    have hlength := congrArg List.length hc
    simp at hlength hitems
    simp only [fuelFor]
    omega
  obtain ⟨c', hread, hrest⟩ := readValue_strings hc hdepth hfuel
  refine ⟨c', ?_, hrest⟩
  have hname : nameOfJson (.array (n.parts.map .string)) = .ok n := nameOfJson_toJson n
  rw [readName, readValueAt, hread]
  simp only [lift, bind, Except.bind, hname]

/-! ## Objects -/

theorem toList_write_object (es : List (String × Json)) :
    (write (.object es)).toList = '\x7b' :: ((writeEntries es).toList ++ ['\x7d']) := by
  rw [write, String.toList_append, String.toList_append]
  rfl

/-- After an entry, a comma and a further key are read as the entries of a new object. -/
theorem readEntriesWith_comma {σ : Type}
    (step : σ → String → Cursor → Except TextFailure (σ × Cursor)) (fuel : Nat) (acc : σ)
    {c : Cursor} {tail : List Char} (hc : c.rest = ',' :: '"' :: tail) :
    readEntriesWith step (fuel + 1) false acc c =
      readEntriesWith step (fuel + 1) true acc c.advance := by
  have hnext : c.advance.rest = '"' :: tail := by simp [hc]
  rw [readEntriesWith, readEntriesWith, Cursor.skipBlanks_of_cons hc (by decide),
    Cursor.skipBlanks_of_cons hnext (by decide), hc, hnext]
  simp

/-- **Objects read as folds.** The entries of a written object are read as a fold over them,
from its first key to its closing brace: where the step reads each written entry as `next`
takes it, the reader gives what folding `next` gives, and fails where that fails. -/
theorem readEntriesWith_written {σ : Type}
    {step : σ → String → Cursor → Except TextFailure (σ × Cursor)}
    {next : σ → String × Json → Option σ} (es : List (String × Json))
    (hstep : ∀ acc, ∀ e ∈ es, ∀ c r, c.rest = ':' :: (write e.2).toList ++ r →
      ReadsTo (step acc e.1 c) r (next acc e))
    (fuel : Nat) (acc : σ) {c : Cursor} {rest : List Char}
    (hc : c.rest = (writeEntries es).toList ++ '\x7d' :: rest) (hfuel : es.length < fuel) :
    ReadsTo (readEntriesWith step fuel true acc c) ('\x7d' :: rest) (es.foldlM next acc) := by
  induction es generalizing fuel acc c with
  | nil =>
    obtain ⟨fuel, rfl⟩ : ∃ f, fuel = f + 1 := ⟨fuel - 1, by simp at hfuel; omega⟩
    rw [writeEntries] at hc
    refine ⟨c, ?_, hc⟩
    rw [readEntriesWith, Cursor.skipBlanks_of_cons hc (by decide), hc]
    simp
  | cons e es ih =>
    obtain ⟨fuel, rfl⟩ : ∃ f, fuel = f + 1 := ⟨fuel - 1, by simp at hfuel; omega⟩
    -- the text after the first entry: a comma and the other entries, or nothing
    obtain ⟨more, hmore⟩ : ∃ more,
        more = (if es = [] then [] else ',' :: (writeEntries es).toList) ++ '\x7d' :: rest :=
      ⟨_, rfl⟩
    replace hc : c.rest =
        '"' :: (e.1.toList.flatMap escapeChar ++ '"' :: (':' :: (write e.2).toList ++ more)) := by
      rw [hc, writeEntries_cons, hmore, entryText]
      simp [toList_quote]
    have hkey : c.advance.rest =
        e.1.toList.flatMap escapeChar ++ '"' :: (':' :: (write e.2).toList ++ more) := by
      simp [hc]
    obtain ⟨c₁, hread, hrest₁⟩ := readString_escaped hkey
    rw [readEntriesWith, Cursor.skipBlanks_of_cons hc (by decide)]
    simp [hc, lift, hread]
    have hfirst := hstep acc e List.mem_cons_self c₁ more hrest₁
    cases hnext : next acc e with
    | none =>
      rw [hnext] at hfirst
      obtain ⟨f, hf⟩ := hfirst
      exact ⟨f, by rw [hf]⟩
    | some acc' =>
      rw [hnext] at hfirst
      obtain ⟨c₂, hok, hrest₂⟩ := hfirst
      rw [hok]
      simp only [Option.bind_some]
      have hrest : ∀ acc, ∀ e ∈ es, ∀ c r, c.rest = ':' :: (write e.2).toList ++ r →
          ReadsTo (step acc e.1 c) r (next acc e) :=
        fun acc e he => hstep acc e (List.mem_cons_of_mem _ he)
      cases es with
      | nil =>
        obtain ⟨fuel, rfl⟩ : ∃ f, fuel = f + 1 := ⟨fuel - 1, by simp at hfuel; omega⟩
        simp only [hmore, if_true, List.nil_append] at hrest₂
        refine ⟨c₂, ?_, hrest₂⟩
        rw [readEntriesWith, Cursor.skipBlanks_of_cons hrest₂ (by decide), hrest₂]
        simp
      | cons e' es =>
        obtain ⟨fuel, rfl⟩ : ∃ f, fuel = f + 1 := ⟨fuel - 1, by simp at hfuel; omega⟩
        have hnext' : c₂.advance.rest = (writeEntries (e' :: es)).toList ++ '\x7d' :: rest := by
          simp [hrest₂, hmore]
        obtain ⟨tail, hcomma⟩ : ∃ tail, c₂.rest = ',' :: '"' :: tail := by
          rw [hrest₂, hmore, if_neg (List.cons_ne_nil _ _), writeEntries_cons, entryText,
            toList_quote_append]
          exact ⟨_, rfl⟩
        rw [readEntriesWith_comma step fuel acc' hcomma]
        exact ih hrest (fuel + 1) acc' hnext' (by simpa using hfuel)

/-- **Records read as folds.** A written object inside fewer than the most arrays and objects
allowed reads as a record: its entries folded by `next` from `init`, then finished. -/
theorem readRecord_written {α σ : Type} {expected : String} {depth : Nat} {init : σ}
    {step : σ → String → Cursor → Except TextFailure (σ × Cursor)}
    {finish : σ → Except DefinitionProblem α}
    {inOrder : Cursor → Except TextFailure (α × Cursor)}
    (next : σ → String × Json → Option σ) {es : List (String × Json)}
    (hstep : ∀ acc, ∀ e ∈ es, ∀ c r, c.rest = ':' :: (write e.2).toList ++ r →
      ReadsTo (step acc e.1 c) r (next acc e))
    (hdepth : depth < maxDepth) {c : Cursor} {rest : List Char}
    (hc : c.rest = (write (.object es)).toList ++ rest) :
    ReadsTo (readRecord expected depth init step finish inOrder c) rest
      ((es.foldlM next init).bind fun acc => (finish acc).toOption) := by
  rw [toList_write_object, List.cons_append, List.append_assoc, List.singleton_append] at hc
  have hentries : c.advance.rest = (writeEntries es).toList ++ '\x7d' :: rest := by simp [hc]
  have hfuel : es.length < c.rest.length + 1 := by
    have := length_le_writeEntries es
    rw [hc]
    simp only [List.length_cons, List.length_append]
    omega
  have hloop := readEntriesWith_written es hstep (c.rest.length + 1) init hentries hfuel
  rw [readRecord, Cursor.skipBlanks_of_cons hc (by decide)]
  cases hfold : es.foldlM next init with
  | none =>
    rw [hfold] at hloop
    obtain ⟨f, hf⟩ := hloop
    rw [hf, hc]
    simp [Nat.not_le.2 hdepth]
  | some acc =>
    rw [hfold] at hloop
    obtain ⟨c', hok, hrest'⟩ := hloop
    rw [hok, hc]
    simp only [if_true, if_neg (Nat.not_le.2 hdepth)]
    cases hfin : finish acc with
    | error p => simp [hfin, Except.toOption]
    | ok v =>
      simp only [Option.bind_some, hfin, Except.toOption]
      refine ⟨c'.advance, ?_, by simp [hrest']⟩
      simp [afterObject, Cursor.skipBlanks_of_cons hrest' (by decide), hrest']

end Definition

/-! ## Columns -/

namespace ColumnDefinition

/-- The entries of a column's JSON object. -/
def entries (col : ColumnDefinition) : List (String × Json) :=
  match col.toJson with
  | .object es => es
  | _ => []

theorem toJson_eq_object (col : ColumnDefinition) : col.toJson = .object col.entries := rfl

/-- The column a written column reads back as: its data type read again from its display, and
its declared type found again from its name. -/
def readBack (col : ColumnDefinition) : Option ColumnDefinition :=
  (DataType.parse col.dataType.display).toOption.map fun dataType =>
    { col with dataType, declaredType := col.declaredType.map fun t => ValueType.ofText t.name }

/-- A written column has its name and its type, and a flag and a value type name only where
they are set. -/
theorem mem_entries {col : ColumnDefinition} {e : String × Json} (he : e ∈ col.entries) :
    e = ("name", col.name.toJson) ∨ e = ("type", .string col.dataType.display) ∨
      (∃ b, e = ("nullable", .bool b)) ∨
        ∃ t : ValueType, e = ("declaredType", .string t.name) := by
  obtain ⟨name, dataType, nullable, declaredType⟩ := col
  simp only [entries, toJson, List.mem_append, List.mem_cons, List.mem_nil_iff, or_false] at he
  rcases he with ((rfl | rfl) | hnullable) | hdeclared
  · exact Or.inl rfl
  · exact Or.inr (Or.inl rfl)
  · refine Or.inr (Or.inr (Or.inl ?_))
    cases nullable with
    | none => simp at hnullable
    | some b => exact ⟨b, by simpa using hnullable⟩
  · refine Or.inr (Or.inr (Or.inr ?_))
    cases declaredType with
    | none => simp at hdeclared
    | some t => exact ⟨t, by simpa using hdeclared⟩

/-- Taking the entries of a written column one by one, as the value reader takes them, gives
the column read back. -/
theorem foldlM_take_entries (col : ColumnDefinition) :
    (col.entries.foldlM (fun acc e => (Definition.ColumnFields.take acc e).toOption) {}).bind
      (fun acc => acc.finish.toOption) = col.readBack := by
  obtain ⟨name, dataType, nullable, declaredType⟩ := col
  cases hparse : DataType.parse dataType.display <;> cases nullable <;> cases declaredType <;>
    simp [entries, toJson, readBack, Definition.ColumnFields.take, Definition.ColumnFields.finish,
      hparse, Definition.nameOfJson_toJson, Definition.dataTypeOfJson, Definition.stringOfJson,
      Definition.nullableOfJson, Definition.declaredTypeOfJson, Except.toOption, Except.map,
      bind, Except.bind]

end ColumnDefinition

namespace Definition

open Json

section ColumnStep

variable {depth : Nat} {acc : ColumnFields} {c : Cursor} {rest : List Char}

theorem columnStep_name {n : Name} (hdepth : depth < maxDepth)
    (hc : c.rest = ':' :: (write n.toJson).toList ++ rest) :
    ReadsTo (columnStep depth acc "name" c) rest (acc.take ("name", n.toJson)).toOption := by
  have hc' : c.advance.rest = (write n.toJson).toList ++ rest := by simp [hc]
  obtain ⟨c', hread, hrest⟩ := readName_write hc' hdepth
  by_cases hdup : acc.name.isSome
  · simp [columnStep, ColumnFields.take, hdup, Except.toOption]
  · simp [columnStep, ColumnFields.take, hdup, readColon_colon hc, hread, hrest, bind,
      Except.bind, nameOfJson_toJson, Except.map, Except.toOption]

theorem columnStep_type {s : String} (hc : c.rest = ':' :: (quote s).toList ++ rest) :
    ReadsTo (columnStep depth acc "type" c) rest (acc.take ("type", .string s)).toOption := by
  have hc' : c.advance.rest = (quote s).toList ++ rest := by simp [hc]
  by_cases hdup : acc.dataType.isSome
  · simp [columnStep, ColumnFields.take, hdup, Except.toOption]
  · have htake : (acc.take ("type", .string s)).toOption =
        (DataType.parse s).toOption.map fun d => { acc with dataType := some d } := by
      cases hparse : DataType.parse s <;>
        simp [ColumnFields.take, hdup, dataTypeOfJson, stringOfJson, hparse, bind, Except.bind,
          Except.map, Except.toOption]
    rw [htake, columnStep, if_neg (by decide), if_pos rfl, if_neg hdup]
    exact readsTo_afterColon _ hc (readDataType_quote hc')

theorem columnStep_nullable {b : Bool} (hc : c.rest = ':' :: (write (.bool b)).toList ++ rest) :
    ReadsTo (columnStep depth acc "nullable" c) rest (acc.take ("nullable", .bool b)).toOption := by
  have hc' : c.advance.rest = (write (.bool b)).toList ++ rest := by simp [hc]
  obtain ⟨c', hread, hrest⟩ := readOptional_readFlag_write hc'
  by_cases hdup : acc.nullable.isSome
  · simp [columnStep, ColumnFields.take, hdup, Except.toOption]
  · simp [columnStep, ColumnFields.take, hdup, readColon_colon hc, hread, hrest, bind,
      Except.bind, nullableOfJson, Except.map, Except.toOption]

theorem columnStep_declaredType {s : String} (hc : c.rest = ':' :: (quote s).toList ++ rest) :
    ReadsTo (columnStep depth acc "declaredType" c) rest
      (acc.take ("declaredType", .string s)).toOption := by
  have hc' : c.advance.rest = (quote s).toList ++ rest := by simp [hc]
  obtain ⟨c', hread, hrest⟩ := readDeclaredType_quote hc'
  by_cases hdup : acc.declaredType.isSome
  · simp [columnStep, ColumnFields.take, hdup, Except.toOption]
  · simp [columnStep, ColumnFields.take, hdup, readColon_colon hc, hread, hrest, bind,
      Except.bind, declaredTypeOfJson, stringOfJson, Except.map, Except.toOption]

/-- On the entries of a written column, the text reader of a column's keys takes each entry as
the value reader does. -/
theorem columnStep_entry {col : ColumnDefinition} {e : String × Json} (he : e ∈ col.entries)
    (hdepth : depth < maxDepth) (hc : c.rest = ':' :: (write e.2).toList ++ rest) :
    ReadsTo (columnStep depth acc e.1 c) rest (acc.take e).toOption := by
  rcases ColumnDefinition.mem_entries he with rfl | rfl | ⟨b, rfl⟩ | ⟨t, rfl⟩
  · exact columnStep_name hdepth hc
  · exact columnStep_type hc
  · exact columnStep_nullable hc
  · exact columnStep_declaredType hc

end ColumnStep

/-- **Columns read back.** A written column, inside fewer than the most arrays and objects
allowed, reads as the column read back. -/
theorem readColumn_written {depth : Nat} (hdepth : depth + 1 < maxDepth) {c : Cursor}
    {col : ColumnDefinition} {rest : List Char} (hc : c.rest = (write col.toJson).toList ++ rest) :
    ReadsTo (readColumn depth c) rest col.readBack := by
  rw [ColumnDefinition.toJson_eq_object] at hc
  rw [readColumn, ← ColumnDefinition.foldlM_take_entries]
  exact readRecord_written _ (fun acc e he c r hc => columnStep_entry he (by omega) hc)
    (by omega) hc

/-! ## Column arrays -/

theorem nextElement_first {c : Cursor} {ch : Char} {tail : List Char} (hc : c.rest = ch :: tail)
    (hch : ch ≠ ']') (hblank : Cursor.isBlank ch = false) :
    nextElement true c = .ok (true, c) := by
  rw [nextElement, Cursor.skipBlanks_of_cons hc hblank, hc]
  simp [hch]

theorem nextElement_comma {c : Cursor} {ch : Char} {tail : List Char}
    (hc : c.rest = ',' :: ch :: tail) (hch : ch ≠ ']') (hblank : Cursor.isBlank ch = false) :
    nextElement false c = .ok (true, c.advance) := by
  have hnext : c.advance.rest = ch :: tail := by simp [hc]
  rw [nextElement, Cursor.skipBlanks_of_cons hc (by decide), hc]
  simp [Cursor.skipBlanks_of_cons hnext hblank, hc, hch]

theorem nextElement_close {c : Cursor} {tail : List Char} (hc : c.rest = ']' :: tail)
    (first : Bool) : nextElement first c = .ok (false, c) := by
  rw [nextElement, Cursor.skipBlanks_of_cons hc (by decide), hc]
  simp

/-- After a column, a comma and a further column are read as the columns of a new array. -/
theorem readColumnItems_comma (depth fuel : Nat) (acc : List ColumnDefinition) {c : Cursor}
    {tail : List Char} (hc : c.rest = ',' :: '\x7b' :: tail) :
    readColumnItems depth (fuel + 1) false acc c =
      readColumnItems depth (fuel + 1) true acc c.advance := by
  have hnext : c.advance.rest = '\x7b' :: tail := by simp [hc]
  rw [readColumnItems, readColumnItems, nextElement_comma hc (by decide) (by decide),
    nextElement_first hnext (by decide) (by decide)]

theorem toList_write_column (col : ColumnDefinition) :
    ∃ tail, (write col.toJson).toList = '\x7b' :: tail := by
  rw [ColumnDefinition.toJson_eq_object, toList_write_object]
  exact ⟨_, rfl⟩

/-- The written columns of an array, from the first to the closing bracket, read back one by
one after the columns already read. -/
theorem readColumnItems_written {depth : Nat} (hdepth : depth + 1 < maxDepth)
    (cols : List ColumnDefinition) (fuel : Nat) (acc : List ColumnDefinition) {c : Cursor}
    {rest : List Char}
    (hc : c.rest = (writeItems (cols.map ColumnDefinition.toJson)).toList ++ ']' :: rest)
    (hfuel : cols.length < fuel) :
    ReadsTo (readColumnItems depth fuel true acc c) rest
      ((cols.mapM ColumnDefinition.readBack).map (acc.reverse ++ ·)) := by
  induction cols generalizing fuel acc c with
  | nil =>
    obtain ⟨fuel, rfl⟩ : ∃ f, fuel = f + 1 := ⟨fuel - 1, by simp at hfuel; omega⟩
    rw [List.map_nil, writeItems] at hc
    refine ⟨c.advance, ?_, by simp [hc]⟩
    rw [readColumnItems, nextElement_close hc]
    simp [bind, Except.bind]
  | cons col cols ih =>
    obtain ⟨fuel, rfl⟩ : ∃ f, fuel = f + 1 := ⟨fuel - 1, by simp at hfuel; omega⟩
    -- the text after the first column: a comma and the other columns, or nothing
    obtain ⟨more, hmore⟩ : ∃ more, more = (if cols = [] then [] else
        ',' :: (writeItems (cols.map ColumnDefinition.toJson)).toList) ++ ']' :: rest :=
      ⟨_, rfl⟩
    replace hc : c.rest = (write col.toJson).toList ++ more := by
      rw [hc, List.map_cons, writeItems_cons, hmore, List.append_assoc]
      simp only [List.map_eq_nil_iff]
    obtain ⟨tail, hbrace⟩ : ∃ tail, c.rest = '\x7b' :: tail := by
      obtain ⟨tail, htail⟩ := toList_write_column col
      exact ⟨tail ++ more, by rw [hc, htail, List.cons_append]⟩
    have hcol := readColumn_written hdepth hc
    rw [readColumnItems, nextElement_first hbrace (by decide) (by decide)]
    simp only [bind, Except.bind, if_true, List.mapM_cons]
    cases hback : col.readBack with
    | none =>
      rw [hback] at hcol
      obtain ⟨f, hf⟩ := hcol
      simp [hf]
    | some col' =>
      rw [hback] at hcol
      obtain ⟨c₂, hok, hrest₂⟩ := hcol
      simp only [hok]
      cases cols with
      | nil =>
        obtain ⟨fuel, rfl⟩ : ∃ f, fuel = f + 1 := ⟨fuel - 1, by simp at hfuel; omega⟩
        simp only [hmore, if_true, List.nil_append] at hrest₂
        refine ⟨c₂.advance, ?_, by simp [hrest₂]⟩
        rw [readColumnItems, nextElement_close hrest₂]
        simp [bind, Except.bind]
      | cons col₂ cols =>
        obtain ⟨fuel, rfl⟩ : ∃ f, fuel = f + 1 := ⟨fuel - 1, by simp at hfuel; omega⟩
        have hnext : c₂.advance.rest =
            (writeItems ((col₂ :: cols).map ColumnDefinition.toJson)).toList ++ ']' :: rest := by
          simp [hrest₂, hmore]
        obtain ⟨tail, hcomma⟩ : ∃ tail, c₂.rest = ',' :: '\x7b' :: tail := by
          obtain ⟨tail, htail⟩ := toList_write_column col₂
          rw [hrest₂, hmore, if_neg (List.cons_ne_nil _ _), List.map_cons, writeItems_cons, htail]
          exact ⟨_, rfl⟩
        rw [readColumnItems_comma depth fuel _ hcomma]
        have hrest := ih (fuel + 1) (col' :: acc) hnext (by simpa using hfuel)
        simpa [Option.bind_assoc, Option.map_bind, Function.comp_def] using hrest

/-- **Column arrays read back.** A written array of columns, inside fewer than the most
arrays and objects allowed, reads as its columns read back, and fails where one of them
does. -/
theorem readColumns_written {depth : Nat} (hdepth : depth + 2 < maxDepth) {c : Cursor}
    {cols : List ColumnDefinition} {rest : List Char}
    (hc : c.rest = (write (.array (cols.map ColumnDefinition.toJson))).toList ++ rest) :
    ReadsTo (readColumns depth c) rest (cols.mapM ColumnDefinition.readBack) := by
  rw [write, String.toList_append, String.toList_append] at hc
  simp only [show "[".toList = ['['] from rfl, show "]".toList = [']'] from rfl,
    List.cons_append, List.nil_append, List.append_assoc] at hc
  have hitems : c.advance.rest =
      (writeItems (cols.map ColumnDefinition.toJson)).toList ++ ']' :: rest := by
    simp [hc]
  have hfuel : cols.length < c.rest.length + 1 := by
    have := length_le_writeItems (cols.map ColumnDefinition.toJson)
    rw [hc]
    simp only [List.length_cons, List.length_append, List.length_map] at this ⊢
    omega
  have hloop := readColumnItems_written (by omega) cols (c.rest.length + 1) [] hitems hfuel
  simp only [List.reverse_nil, List.nil_append] at hloop
  rw [readColumns, Cursor.skipBlanks_of_cons hc (by decide)]
  cases hcols : cols.mapM ColumnDefinition.readBack with
  | none =>
    rw [hcols] at hloop
    obtain ⟨f, hf⟩ := hloop
    rw [hf, hc]
    simp [Nat.not_le.2 (show depth < maxDepth by omega)]
  | some cs =>
    rw [hcols] at hloop
    obtain ⟨c', hok, hrest'⟩ := hloop
    rw [hok, hc]
    simp only [if_true, if_neg (Nat.not_le.2 (show depth < maxDepth by omega))]
    exact ⟨c', by simp, hrest'⟩

/-! ## Definitions -/

theorem variantOf_collation (c : Collation) : variantOf collationSpellings c.name = .ok c := by
  cases c <;> rfl

theorem variantOf_policy (p : AmbiguityPolicy) : variantOf policySpellings p.mode = .ok p := by
  cases p <;> rfl

/-- How the entries of a written definition are taken: the enumerations as the value reader
takes them, and the columns as `columns`, the written columns read back. -/
def DefinitionFields.takeWritten (columns : Option (List ColumnDefinition))
    (acc : DefinitionFields) (e : String × Json) : Option DefinitionFields :=
  if e.1 = "columns" then
    if acc.columns.isSome then none else columns.map fun cs => { acc with columns := some cs }
  else (acc.take e).toOption

section DefinitionStep

variable {depth : Nat} {acc : DefinitionFields} {c : Cursor} {rest : List Char}

/-- The enumerations of a definition, written as their spellings, are read as the value reader
reads them. -/
theorem definitionStep_spelling {key s : String} (hkey : key = "collation" ∨ key = "ambiguity")
    (hc : c.rest = ':' :: (quote s).toList ++ rest) :
    ReadsTo (definitionStep depth acc key c) rest (acc.take (key, .string s)).toOption := by
  have hc' : c.advance.rest = (quote s).toList ++ rest := by simp [hc]
  rcases hkey with rfl | rfl
  · by_cases hdup : acc.collation.isSome
    · simp [definitionStep, DefinitionFields.take, hdup, Except.toOption]
    · have htake : (acc.take ("collation", .string s)).toOption =
          (variantOf collationSpellings s).toOption.map fun v => { acc with collation := some v } := by
        cases hv : variantOf collationSpellings s <;>
          simp [DefinitionFields.take, hdup, variantOfJson, hv, Except.map, Except.toOption]
      rw [htake, definitionStep, if_pos rfl, if_neg hdup]
      exact readsTo_afterColon _ hc (readVariant_quote collationSpellings depth hc')
  · by_cases hdup : acc.ambiguity.isSome
    · simp [definitionStep, DefinitionFields.take, hdup, Except.toOption]
    · have htake : (acc.take ("ambiguity", .string s)).toOption =
          (variantOf policySpellings s).toOption.map fun v => { acc with ambiguity := some v } := by
        cases hv : variantOf policySpellings s <;>
          simp [DefinitionFields.take, hdup, variantOfJson, hv, Except.map, Except.toOption]
      rw [htake, definitionStep, if_neg (by decide), if_pos rfl, if_neg hdup]
      exact readsTo_afterColon _ hc (readVariant_quote policySpellings depth hc')

/-- The written columns of a definition are read back one by one. -/
theorem definitionStep_columns {cols : List ColumnDefinition} (hdepth : depth + 2 < maxDepth)
    (hc : c.rest = ':' :: (write (.array (cols.map ColumnDefinition.toJson))).toList ++ rest) :
    ReadsTo (definitionStep depth acc "columns" c) rest
      (acc.takeWritten (cols.mapM ColumnDefinition.readBack)
        ("columns", .array (cols.map ColumnDefinition.toJson))) := by
  have hc' : c.advance.rest =
      (write (.array (cols.map ColumnDefinition.toJson))).toList ++ rest := by
    simp [hc]
  by_cases hdup : acc.columns.isSome
  · simp [definitionStep, DefinitionFields.takeWritten, hdup]
  · rw [DefinitionFields.takeWritten, if_pos rfl, if_neg hdup, definitionStep, if_neg (by decide),
      if_neg (by decide), if_pos rfl, if_neg hdup]
    exact readsTo_afterColon _ hc (readColumns_written hdepth hc')

end DefinitionStep

end Definition

open Definition Json in
/-- **Written definitions read back.** Reading the JSON text of a definition gives the
definition with each column read back: its data type read again from its display and its
declared type found again from its name. It fails exactly where some column's display does not
read as a data type. -/
theorem SchemaDefinition.ofText_write (d : SchemaDefinition) :
    (SchemaDefinition.ofText (write d.toJson)).toOption =
      (d.columns.mapM ColumnDefinition.readBack).map fun columns => { d with columns } := by
  have hc : (Cursor.ofString (write d.toJson)).rest = (write d.toJson).toList ++ [] := by
    simp [Cursor.ofString]
  have hstep : ∀ acc, ∀ e ∈ [("collation", Json.string d.collation.name),
      ("ambiguity", .string d.ambiguity.mode),
      ("columns", .array (d.columns.map ColumnDefinition.toJson))], ∀ c r,
      c.rest = ':' :: (write e.2).toList ++ r →
      ReadsTo (definitionStep 1 acc e.1 c) r
        (acc.takeWritten (d.columns.mapM ColumnDefinition.readBack) e) := by
    intro acc e he c r hc
    simp only [List.mem_cons, List.mem_nil_iff, or_false] at he
    rcases he with rfl | rfl | rfl
    · simpa [DefinitionFields.takeWritten] using definitionStep_spelling (Or.inl rfl) hc
    · simpa [DefinitionFields.takeWritten] using definitionStep_spelling (Or.inr rfl) hc
    · exact definitionStep_columns (by decide) hc
  have hread : ReadsTo (readRecord "struct SchemaDefinition" 0 {} (definitionStep 1)
      (fun acc => .ok acc.finish) (definitionInOrder 1) (Cursor.ofString (write d.toJson))) [] _ :=
    readRecord_written _ hstep (by decide) hc
  rw [SchemaDefinition.ofText]
  cases hcols : d.columns.mapM ColumnDefinition.readBack with
  | none =>
    simp [DefinitionFields.takeWritten, DefinitionFields.take, variantOfJson, variantOf_collation,
      variantOf_policy, hcols, Except.map, Except.toOption] at hread
    obtain ⟨f, hf⟩ := hread
    simp [hf, Except.toOption]
  | some cs =>
    simp [DefinitionFields.takeWritten, DefinitionFields.take, variantOfJson, variantOf_collation,
      variantOf_policy, hcols, Except.map, Except.toOption] at hread
    obtain ⟨c', hok, hrest⟩ := hread
    rw [hok]
    simp [Cursor.skipBlanks, Cursor.skipBlanksFor, hrest, Except.toOption, DefinitionFields.finish]

end RecordSchema
