import Mathlib.Data.List.TakeDrop
import RecordSchema.Types.DataType
import RecordSchema.Proofs.Words
/-!
# How reading a data type succeeds

Reading a data type has two stages: the nullability words are taken off the end of the text's
words, and the remaining words, joined by single spaces, are read as a type text. This file
says once what each stage does, so that later proofs never unfold the reader:

* `DataType.stripNullability_append_notNull`, `DataType.stripNullability_of_not_null` and
  `DataType.stripNullability_null` — what the nullability stage does to words that end with
  `NOT NULL`, with something other than `NULL`, and with `NULL`;
* `DataType.TypeTextReads` — the grammar of a type text that reads: a name with no `(`, or a
  name followed by `(`, comma-separated arguments and a final `)`;
* `DataType.parse_eq_ok_iff` — reading succeeds exactly when the nullability stage leaves
  words, the last of them not `NOT`, whose joined text reads by that grammar;
* `DataType.readU32_toString`, `DataType.splitCommas_append` — a written number reads back,
  and a comma splits the argument text;
* `SqlType.ofName_name` — reading the name of a type read from any text gives that type back.
-/

namespace RecordSchema

open Text

/-! ## Type names -/

namespace SqlType

/-- The standard types, in the order of their declaration. -/
def standard : List SqlType :=
  [.boolean, .tinyInt, .smallInt, .integer, .bigInt, .decimal, .numeric, .real, .float, .double,
    .char, .varchar, .clob, .binary, .varbinary, .blob, .date, .time, .timestamp,
    .timestampWithTimeZone, .uuid, .json]

/-- Every type other than a vendor type is standard. -/
theorem mem_standard {t : SqlType} (ht : ∀ n, t ≠ .other n) : t ∈ standard := by
  cases t
  case other n => exact absurd rfl (ht n)
  all_goals simp [standard]

/-- The alias table knows standard types only. -/
theorem ofNormalName?_ne_other (x n : String) : ofNormalName? x ≠ some (.other n) := by
  unfold ofNormalName?
  split <;> simp

/-- The standard names read back to their type. -/
theorem ofName_name_standard : ∀ t ∈ standard, ofName t.name = t := by
  decide

/-- A name that the alias table knows is a standard type. -/
theorem ofName_of_ofNormalName?_some {s : String} {t : SqlType}
    (h : ofNormalName? (asciiUpper (collapseSpaces s)) = some t) : ofName s = t ∧ t ∈ standard :=
  ⟨by simp [ofName, h], mem_standard fun n hn => ofNormalName?_ne_other _ n (hn ▸ h)⟩

/-- A name that the alias table does not know is a vendor type, named by the trimmed text. -/
theorem ofName_of_ofNormalName?_none {s : String}
    (h : ofNormalName? (asciiUpper (collapseSpaces s)) = none) : ofName s = .other (trimText s) := by
  simp [ofName, h]

/-- A type read from a text is standard, or the vendor type named by the trimmed text. -/
theorem ofName_cases (s : String) : ofName s ∈ standard ∨ ofName s = .other (trimText s) := by
  cases h : ofNormalName? (asciiUpper (collapseSpaces s)) with
  | some t =>
    obtain ⟨hs, hstd⟩ := ofName_of_ofNormalName?_some h
    exact .inl (hs ▸ hstd)
  | none => exact .inr (ofName_of_ofNormalName?_none h)

/-- Trimming keeps the words of a text, so the normalised name it selects. -/
theorem collapseSpaces_trimText (s : String) : collapseSpaces (trimText s) = collapseSpaces s := by
  simp [collapseSpaces, trimText, words_trim]

/-- **Type names are canonical.** Reading the name of a type read from any text gives that type
back: a standard type by its canonical name, a vendor type by its trimmed text. -/
theorem ofName_name (s : String) : ofName (ofName s).name = ofName s := by
  cases h : ofNormalName? (asciiUpper (collapseSpaces s)) with
  | some t =>
    obtain ⟨hs, hstd⟩ := ofName_of_ofNormalName?_some h
    rw [hs]
    exact ofName_name_standard t hstd
  | none =>
    -- the trimmed text has the words of the text, so the alias table does not know it either
    have htrim : ofNormalName? (asciiUpper (collapseSpaces (trimText s))) = none := by
      rw [collapseSpaces_trimText]
      exact h
    rw [ofName_of_ofNormalName?_none h, name, ofName_of_ofNormalName?_none htrim, trimText,
      trimText, String.toList_ofList, trim_trim]

end SqlType

namespace DataType

/-! ## Arguments -/

/-- A written number reads back. -/
theorem readU32_toString {n : Nat} (h : n ≤ 4294967295) : readU32? (toString n) = some n := by
  have hdigits : ∀ c ∈ Nat.toDigits 10 n, c.isDigit = true :=
    fun c hc => Nat.isDigit_of_mem_toDigits (by decide) (by decide) hc
  have hval : (Nat.toDigits 10 n).foldl (fun acc c => 10 * acc + digitValue c) 0 = n :=
    Nat.ofDigitChars_ten_toDigits
  unfold readU32?
  simp only [Nat.toString_eq_repr, Nat.toList_repr]
  split
  · -- a written number has no sign to drop
    rename_i ds hplus
    exact absurd (hdigits '+' (by rw [hplus]; exact List.mem_cons_self)) (by decide)
  · simp [Nat.toDigits_ne_nil, List.all_eq_true.2 hdigits, hval, h]

/-- A number read is at most 4294967295. -/
theorem le_of_readU32 {s : String} {n : Nat} (h : readU32? s = some n) : n ≤ 4294967295 := by
  unfold readU32? at h
  dsimp only at h
  split_ifs at h with hdigits hle
  cases h
  exact hle

/-- Every argument read is at most 4294967295. -/
theorem le_of_readArguments : ∀ {args : List (List Char)} {ns : List Nat},
    readArguments args = .ok ns → ∀ n ∈ ns, n ≤ 4294967295
  | [], ns, h => by
    cases h
    simp
  | arg :: args, ns, h => by
    unfold readArguments at h
    dsimp only at h
    split at h
    · cases h
    · rename_i n hn
      cases hns' : readArguments args with
      | error e => simp [hns', Except.map] at h
      | ok ns' =>
      simp only [hns', Except.map, Except.ok.injEq] at h
      subst h
      intro m hm
      rcases List.mem_cons.1 hm with rfl | hm
      · exact le_of_readU32 hn
      · exact le_of_readArguments hns' m hm

/-- Splitting always gives at least one piece. -/
theorem splitCommas_ne_nil : ∀ cs, splitCommas cs ≠ []
  | [] => by simp [splitCommas]
  | c :: cs => by
    unfold splitCommas
    split
    · simp
    · split <;> simp

/-- A text without a comma is one piece. -/
theorem splitCommas_of_not_mem : ∀ {cs : List Char}, ',' ∉ cs → splitCommas cs = [cs]
  | [], _ => rfl
  | c :: cs, h => by
    have hc : c ≠ ',' := fun hc => h (hc ▸ List.mem_cons_self)
    rw [splitCommas, splitCommas_of_not_mem fun hm => h (List.mem_cons_of_mem c hm)]
    simp [hc]

/-- A comma ends the piece before it. -/
theorem splitCommas_append : ∀ {a : List Char} (b : List Char), ',' ∉ a →
    splitCommas (a ++ ',' :: b) = a :: splitCommas b
  | [], b, _ => by
    obtain ⟨piece, pieces, hb⟩ : ∃ piece pieces, splitCommas b = piece :: pieces :=
      List.exists_cons_of_ne_nil (splitCommas_ne_nil b)
    rw [List.nil_append, splitCommas, hb]
    simp
  | c :: a, b, h => by
    have hc : c ≠ ',' := fun hc => h (hc ▸ List.mem_cons_self)
    rw [List.cons_append, splitCommas, splitCommas_append b fun hm => h (List.mem_cons_of_mem c hm)]
    simp [hc]

/-! ## Nullability words -/

/-- Words that end with `NOT NULL` lose those two and refuse nulls. -/
theorem stripNullability_append_notNull (ws : List String) :
    stripNullability (ws ++ ["NOT", "NULL"]) = (ws, false) := by
  simp [stripNullability, sameIgnoringAsciiCase_self]

/-- Words whose last is not `NULL` are kept and allow nulls. -/
theorem stripNullability_of_not_null {ws : List String}
    (h : ws.getLast?.any (sameIgnoringAsciiCase · "NULL") = false) :
    stripNullability ws = (ws, true) := by
  unfold stripNullability
  cases hrev : ws.reverse with
  | nil => rfl
  | cons last rest =>
    have hlast : ws.getLast? = some last := by rw [← List.head?_reverse, hrev]; rfl
    rw [hlast] at h
    simp only [Option.any_some] at h
    simp [h]

/-- Words whose last is `NULL` lose it; a `NOT` before it is dropped too, and only then are
nulls refused. -/
theorem stripNullability_null {w : String} (hw : sameIgnoringAsciiCase w "NULL" = true)
    (ws : List String) :
    stripNullability (ws ++ [w]) =
      if ws.getLast?.any (sameIgnoringAsciiCase · "NOT") then (ws.dropLast, false) else (ws, true) := by
  rcases List.eq_nil_or_concat ws with rfl | ⟨init, prev, rfl⟩
  · simp [stripNullability, hw]
  · by_cases hprev : sameIgnoringAsciiCase prev "NOT" = true <;>
      simp [stripNullability, hw, hprev]

/-- The nullability stage keeps a prefix of the words. -/
theorem stripNullability_prefix (ws : List String) : (stripNullability ws).1 <+: ws := by
  rcases List.eq_nil_or_concat ws with rfl | ⟨init, last, rfl⟩
  · exact List.prefix_refl _
  · by_cases hnull : sameIgnoringAsciiCase last "NULL" = true
    · rw [List.concat_eq_append, stripNullability_null hnull]
      split
      · exact (List.dropLast_prefix init).trans (List.prefix_append init [last])
      · exact List.prefix_append init [last]
    · have hlast : (init.concat last).getLast?.any (sameIgnoringAsciiCase · "NULL") = false := by
        simpa using hnull
      simp only [stripNullability_of_not_null hlast, List.prefix_refl]

/-! ## The type text -/

/-- Every character of a text with no `(` passes the name test. -/
theorem ne_paren_of_not_mem {cs : List Char} (h : '(' ∉ cs) : ∀ c ∈ cs, decide (c ≠ '(') = true :=
  fun _ hc => decide_eq_true fun he => h (he ▸ hc)

/-- A text with no `(` is all name. -/
theorem span_of_not_mem {cs : List Char} (h : '(' ∉ cs) :
    cs.span (fun c => decide (c ≠ '(')) = (cs, []) := by
  rw [List.span_eq_takeWhile_dropWhile, List.takeWhile_eq_self_iff.2 (ne_paren_of_not_mem h),
    List.dropWhile_eq_nil_iff.2 (ne_paren_of_not_mem h)]

/-- A name with no `(` ends at the first `(`. -/
theorem span_append_paren {name : List Char} (h : '(' ∉ name) (rest : List Char) :
    (name ++ '(' :: rest).span (fun c => decide (c ≠ '(')) = (name, '(' :: rest) := by
  rw [List.span_eq_takeWhile_dropWhile, List.takeWhile_append_of_pos (ne_paren_of_not_mem h),
    List.dropWhile_append_of_pos (ne_paren_of_not_mem h)]
  simp

/-- How a type text reads once the nullability is known: a name with no `(` that is not blank
names a type without arguments; such a name followed by `(`, an argument text and a final `)`
names the type with the arguments read from the comma-separated pieces of the argument text. -/
inductive TypeTextReads (nullable : Bool) : List Char → DataType → Prop where
  | name {cs : List Char} : '(' ∉ cs → trim cs ≠ [] →
      TypeTextReads nullable cs { sqlType := SqlType.ofName (String.ofList cs), nullable }
  | arguments {name argText : List Char} {args : List Nat} {t : DataType} : '(' ∉ name →
      trim name ≠ [] → readArguments (splitCommas argText) = .ok args →
      withArguments { sqlType := SqlType.ofName (String.ofList name), nullable }
        (String.ofList (name ++ '(' :: (argText ++ [')']))) args = .ok t →
      TypeTextReads nullable (name ++ '(' :: (argText ++ [')'])) t

/-- Arguments keep the type and the nullability, and set a length or a precision. -/
theorem withArguments_eq_ok {d t : DataType} {text : String} {args : List Nat}
    (h : d.withArguments text args = .ok t) :
    t.sqlType = d.sqlType ∧ t.nullable = d.nullable ∧ (t.length.isSome ∨ t.precision.isSome) := by
  unfold withArguments at h
  split at h
  · split at h <;> cases h <;> simp
  · split at h
    · cases h
    · split at h
      · cases h
      · cases h
        simp
  · cases h

/-- What a successful read did. -/
theorem reads_of_parse {s : String} {t : DataType} (h : parse s = .ok t) :
    ∃ ws, stripNullability ((words s.toList).map String.ofList) = (ws, t.nullable) ∧
      ws.getLast?.any (sameIgnoringAsciiCase · "NOT") = false ∧ ws ≠ [] ∧
      TypeTextReads t.nullable (" ".intercalate ws).toList t := by
  unfold parse at h
  generalize hstrip : stripNullability ((words s.toList).map String.ofList) = st at h
  obtain ⟨ws, nullable⟩ := st
  dsimp only at h
  split at h
  · cases h
  rename_i hnot
  split at h
  · cases h
  rename_i hempty
  rw [List.span_eq_takeWhile_dropWhile] at h
  dsimp only at h
  have hsplit := List.takeWhile_append_dropWhile (p := fun c => decide (c ≠ '('))
    (l := (" ".intercalate ws).toList)
  have hfirst := List.head?_dropWhile_not (fun c => decide (c ≠ '(')) (" ".intercalate ws).toList
  have hnamechars : ∀ c ∈ (" ".intercalate ws).toList.takeWhile (fun c => decide (c ≠ '(')),
      decide (c ≠ '(') = true := fun _ hc =>
    List.mem_takeWhile_imp (p := fun c => decide (c ≠ '(')) hc
  generalize (" ".intercalate ws).toList.takeWhile (fun c => decide (c ≠ '(')) = name
    at h hsplit hnamechars
  have hparen : '(' ∉ name := fun hp => by simpa using hnamechars '(' hp
  split at h
  · -- no `(`: the whole text is the name
    rename_i hrest
    split at h
    · cases h
    rename_i hname
    -- `subst`, not `cases`: unifying the result would evaluate the name lookup
    have ht := Except.ok.inj h
    subst ht
    rw [hrest, List.append_nil] at hsplit
    refine ⟨ws, rfl, by simpa using hnot, by simpa using hempty, ?_⟩
    rw [← hsplit]
    exact TypeTextReads.name (hsplit ▸ hparen) (by simpa [hsplit] using hname)
  · -- a `(`: arguments between it and a final `)`
    rename_i paren inner hrest
    rw [hrest] at hfirst hsplit
    split at h
    · cases h
    rename_i hclose
    split at h
    · cases h
    rename_i hname
    split at h
    · cases h
    rename_i args hargs
    obtain ⟨-, hnull, -⟩ := withArguments_eq_ok h
    dsimp only at hnull
    subst hnull
    have hopen : paren = '(' := by simpa using hfirst
    have hinner : inner = inner.dropLast ++ [')'] :=
      (List.dropLast_append_getLast? ')' (by simpa using hclose)).symm
    -- the text passed on for error messages is the text read
    have htext : String.ofList (name ++ paren :: inner) = " ".intercalate ws := by
      rw [hsplit, String.ofList_toList]
    rw [hopen, hinner] at htext
    refine ⟨ws, rfl, by simpa using hnot, by simpa using hempty, ?_⟩
    rw [← hsplit, hopen, hinner]
    refine TypeTextReads.arguments hparen (by simpa using hname) hargs ?_
    rw [htext]
    exact h

/-- A read that the grammar allows succeeds. -/
theorem parse_of_reads {s : String} {t : DataType} {ws : List String}
    (hstrip : stripNullability ((words s.toList).map String.ofList) = (ws, t.nullable))
    (hnot : ws.getLast?.any (sameIgnoringAsciiCase · "NOT") = false) (hne : ws ≠ [])
    (hreads : TypeTextReads t.nullable (" ".intercalate ws).toList t) : parse s = .ok t := by
  unfold parse
  rw [hstrip]
  dsimp only
  rw [if_neg (by simp [hnot]), if_neg (by simpa using hne)]
  generalize t.nullable = nullable at hreads
  generalize " ".intercalate ws = text at hreads ⊢
  generalize hcs : text.toList = cs at hreads
  cases hreads with
  | name hparen hname =>
    rw [span_of_not_mem hparen]
    dsimp only
    rw [if_neg (by simpa using hname)]
  | arguments hparen hname hargs happly =>
    rename_i name argText args
    rw [span_append_paren hparen]
    dsimp only
    rw [if_neg (by simp), if_neg (by simpa using hname), List.dropLast_concat, hargs]
    dsimp only
    rw [← hcs, String.ofList_toList] at happly
    exact happly

/-- **How reading succeeds.** A text reads as a data type exactly when the nullability words
leave words, the last of them not `NOT`, whose text joined by single spaces reads by the type
text grammar with that nullability. -/
theorem parse_eq_ok_iff {s : String} {t : DataType} :
    parse s = .ok t ↔ ∃ ws, stripNullability ((words s.toList).map String.ofList) = (ws, t.nullable) ∧
      ws.getLast?.any (sameIgnoringAsciiCase · "NOT") = false ∧ ws ≠ [] ∧
      TypeTextReads t.nullable (" ".intercalate ws).toList t := by
  constructor
  · exact reads_of_parse
  · rintro ⟨ws, hstrip, hnot, hne, hreads⟩
    exact parse_of_reads hstrip hnot hne hreads

end DataType

end RecordSchema
