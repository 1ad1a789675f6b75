import RecordSchema.Proofs.DataTypeRead
/-!
# A data type reads back from its written form

`DataType.display` writes the SQL name, the arguments and ` NOT NULL` when nulls are refused.
Reading that text gives the data type back, with one exception: reading takes a last word
`NULL` as the nullability, while a vendor name is written as it is, so a nullable vendor type
without arguments whose name ends with the word `NULL` loses that word. `A NULL NULL` reads as
the vendor type `A NULL`, written `A NULL`, which reads as the vendor type `A`.

* `DataType.WellFormed` — what every data type that reading gives satisfies: its name is
  single-spaced text naming its type (`SqlType.NameReadsBack`), and its arguments are ones
  reading gives (`DataType.Shape`); `DataType.wellFormed_of_parse` proves it of every read;
* `DataType.WellFormed.parse_display_iff` — a well-formed data type reads back from its written
  form exactly when it is not a nullable type whose written form ends with the word `NULL`;
* `DataType.display_round_trip_iff` — hence the same for every data type read from a text;
* `DataType.vendor_null_name_loses_word` — the exception, at `A NULL NULL`.
-/

namespace RecordSchema

open Text

/-! ## Last words -/

namespace Text

/-- Whether the last white-space separated word of a text is `word`, ignoring ASCII case. -/
def endsWithWord (word text : String) : Bool :=
  (words text.toList).getLast?.any fun w => sameIgnoringAsciiCase (String.ofList w) word

/-- The last word of a text, as reading checks it on the words as strings. -/
theorem endsWithWord_ofList (word : String) (cs : List Char) :
    endsWithWord word (String.ofList cs) =
      ((words cs).map String.ofList).getLast?.any (sameIgnoringAsciiCase · word) := by
  rw [endsWithWord, String.toList_ofList, List.getLast?_map]
  cases (words cs).getLast? <;> rfl

/-- Single-spaced text whose last character is not, ignoring ASCII case, the last character
of `word` does not end with the word `word`. -/
theorem endsWithWord_eq_false {cs : List Char} {c : Char} (h : SingleSpaced cs)
    (hc : cs.getLast? = some c) {word : String}
    (hword : word.toList.getLast?.map Char.toLower ≠ some c.toLower) :
    endsWithWord word (String.ofList cs) = false := by
  unfold endsWithWord
  rw [String.toList_ofList]
  cases hw : (words cs).getLast? with
  | none => rfl
  | some w =>
    have hlast : w.getLast? = some c := (h.getLast?_of_words hw).trans hc
    rw [Option.any_some, Bool.eq_false_iff]
    intro hsame
    -- equal after folding case, so their last characters are equal after folding case
    have hfold : w.map Char.toLower = word.toList.map Char.toLower := by
      simpa [sameIgnoringAsciiCase] using hsame
    have hends := congrArg List.getLast? hfold
    rw [List.getLast?_map, List.getLast?_map, hlast] at hends
    exact hword hends.symm

end Text

/-! ## Type names that read back -/

namespace SqlType

/-- A type whose name reads back as the name of a data type: single-spaced text, not empty,
without `(`, that names the type. -/
structure NameReadsBack (t : SqlType) : Prop where
  singleSpaced : SingleSpaced t.name.toList
  ne_nil : t.name.toList ≠ []
  not_paren : '(' ∉ t.name.toList
  ofName_name : ofName t.name = t

instance (t : SqlType) : Decidable t.NameReadsBack :=
  decidable_of_iff (SingleSpaced t.name.toList ∧ t.name.toList ≠ [] ∧ '(' ∉ t.name.toList ∧
      ofName t.name = t)
    ⟨fun h => ⟨h.1, h.2.1, h.2.2.1, h.2.2.2⟩, fun h => ⟨h.1, h.2, h.3, h.4⟩⟩

/-- The standard names read back, and none ends with the word `NOT` or `NULL`. -/
theorem standard_name : ∀ t ∈ standard, t.NameReadsBack ∧ endsWithWord "NOT" t.name = false ∧
    endsWithWord "NULL" t.name = false := by
  decide

/-- The type named by a text whose trimmed text is single-spaced, not empty and has no `(`
reads back from its name. -/
theorem nameReadsBack_ofName {cs : List Char} (hss : SingleSpaced (trim cs)) (hne : trim cs ≠ [])
    (hparen : '(' ∉ cs) : (ofName (String.ofList cs)).NameReadsBack := by
  rcases ofName_cases (String.ofList cs) with hstd | hother
  · exact (standard_name _ hstd).1
  · have hname : (ofName (String.ofList cs)).name.toList = trim cs := by
      rw [hother, name, trimText, String.toList_ofList, String.toList_ofList]
    refine ⟨hname ▸ hss, hname ▸ hne, fun hp => ?_, ofName_name _⟩
    rw [hname] at hp
    exact hparen ((trim_isInfix cs).subset hp)

end SqlType

namespace DataType

/-! ## Well-formed data types -/

/-- The arguments reading gives a data type, by the kind of its SQL type: none, a length for a
type with lengths, a precision for a type without, or a precision and a scale no larger than it
for a type that accepts a scale; each at most 4294967295. A type without arguments has no last
word `NOT`, which reading refuses. -/
inductive Shape (ty : SqlType) : Option Nat → Option Nat → Option Nat → Prop where
  | bare : endsWithWord "NOT" ty.name = false → Shape ty none none none
  | length {n : Nat} : ty.hasLength = true → n ≤ 4294967295 → Shape ty (some n) none none
  | precision {p : Nat} : ty.hasLength = false → p ≤ 4294967295 → Shape ty none (some p) none
  | scaled {p s : Nat} : ty.acceptsScale = true → s ≤ p → p ≤ 4294967295 →
      Shape ty none (some p) (some s)

/-- A data type as reading gives them: a name that reads back, and arguments of its shape. -/
structure WellFormed (t : DataType) : Prop where
  name : t.sqlType.NameReadsBack
  shape : Shape t.sqlType t.length t.precision t.scale

/-- Applying arguments read to a type without arguments gives a type of some argument shape. -/
theorem shape_of_withArguments {ty : SqlType} {nullable : Bool} {text : String} {args : List Nat}
    {t : DataType} (hargs : ∀ n ∈ args, n ≤ 4294967295)
    (h : withArguments { sqlType := ty, nullable } text args = .ok t) :
    Shape t.sqlType t.length t.precision t.scale := by
  unfold withArguments at h
  split at h
  · rename_i n
    have hn := hargs n List.mem_cons_self
    split at h
    · rename_i hlen
      cases h
      exact .length hlen hn
    · rename_i hlen
      cases h
      exact .precision (by simpa using hlen) hn
  · rename_i p s
    split at h
    · cases h
    · rename_i hscale
      split at h
      · cases h
      · rename_i hle
        cases h
        exact .scaled (by simpa using hscale) (by omega) (hargs p List.mem_cons_self)
  · cases h

/-- Words taken from a text, as strings, are words again as character lists. -/
theorem isWord_of_mem_map_words {cs : List Char} {ws : List String}
    (h : ws <+: (words cs).map String.ofList) : ∀ w ∈ ws.map String.toList, IsWord w := by
  intro w hw
  obtain ⟨v, hv, rfl⟩ := List.mem_map.1 hw
  obtain ⟨u, hu, rfl⟩ := List.mem_map.1 (h.subset hv)
  rw [String.toList_ofList]
  exact isWord_of_mem_words hu

/-- **Every read is well formed.** -/
theorem wellFormed_of_parse {s : String} {t : DataType} (h : parse s = .ok t) : t.WellFormed := by
  obtain ⟨ws, hstrip, hnot, -, hreads⟩ := reads_of_parse h
  -- the kept words are words of the text, so their joined text is single-spaced
  have hkept : ws <+: (words s.toList).map String.ofList := by
    have hprefix := stripNullability_prefix ((words s.toList).map String.ofList)
    rwa [hstrip] at hprefix
  have hwords : ∀ w ∈ ws.map String.toList, IsWord w := isWord_of_mem_map_words hkept
  have htext : (" ".intercalate ws).toList = [' '].intercalate (ws.map String.toList) := by
    simp
  have hss : SingleSpaced (" ".intercalate ws).toList := htext ▸ SingleSpaced.intercalate hwords
  generalize hcs : (" ".intercalate ws).toList = cs at hreads hss
  generalize t.nullable = nullable at hreads
  cases hreads with
  | name hparen hname =>
    have htrim : trim cs = cs := trim_eq_self hss.head_ne hss.last_ne
    constructor
    · dsimp only
      exact SqlType.nameReadsBack_ofName (by rw [htrim]; exact hss) hname hparen
    dsimp only
    refine .bare ?_
    -- a vendor name is the joined text, whose last word reading has checked
    rcases SqlType.ofName_cases (String.ofList cs) with hstd | hother
    · exact (SqlType.standard_name _ hstd).2.1
    · rw [hother, SqlType.name, trimText, String.toList_ofList, htrim, endsWithWord_ofList, ← hcs,
        htext, words_intercalate hwords, List.map_map]
      simpa using hnot
  | arguments hparen hname hargs happly =>
    rename_i name argText args
    obtain ⟨hty, -, -⟩ := withArguments_eq_ok happly
    dsimp only at hty
    refine ⟨?_, shape_of_withArguments (le_of_readArguments hargs) happly⟩
    rw [hty]
    exact SqlType.nameReadsBack_ofName (SingleSpaced.trim_of_append hss) hname hparen

/-! ## The written form -/

/-- The arguments of a data type as `display` writes them. -/
def argumentText (t : DataType) : String :=
  match t.length, t.precision, t.scale with
  | some n, _, _ => s!"({n})"
  | none, some p, some s => s!"({p}, {s})"
  | none, some p, none => s!"({p})"
  | none, none, _ => ""

/-- The type text of a data type: its SQL name and its arguments. -/
def typeText (t : DataType) : String := t.sqlType.name ++ t.argumentText

/-- The written form is the type text, then ` NOT NULL` when nulls are refused. -/
theorem display_eq (t : DataType) :
    t.display = t.typeText ++ (if t.nullable then "" else " NOT NULL") := rfl

/-- A written number is digits, none of them white space or a comma. -/
theorem not_blank_of_mem_toString {n : Nat} {c : Char} (hc : c ∈ (toString n).toList) :
    isWhiteSpace c = false ∧ c ≠ ',' := by
  have hdigit : c.isDigit = true := by
    rw [Nat.toString_eq_repr, Nat.toList_repr] at hc
    exact Nat.isDigit_of_mem_toDigits (by decide) (by decide) hc
  simp only [Char.isDigit, Bool.and_eq_true, decide_eq_true_eq, UInt32.le_iff_toNat_le] at hdigit
  constructor
  · simp only [isWhiteSpace, Char.toNat]
    simp at hdigit
    simp
    omega
  · rintro rfl
    simp at hdigit

/-- A number between brackets, or followed by a bracket or a comma, is one word. -/
theorem isWord_written (pre : List Char) (n : Nat) (post : List Char)
    (hpre : ∀ c ∈ pre, isWhiteSpace c = false) (hpost : ∀ c ∈ post, isWhiteSpace c = false) :
    IsWord (pre ++ (toString n).toList ++ post) := by
  refine ⟨by simp [Nat.toDigits_ne_nil], fun c hc => ?_⟩
  rcases List.mem_append.1 hc with hc | hc
  · rcases List.mem_append.1 hc with hc | hc
    · exact hpre c hc
    · exact (not_blank_of_mem_toString hc).1
  · exact hpost c hc

/-- A written number, after white space, reads back as the first argument. -/
theorem readArguments_written (pre : List Char) (hpre : ∀ c ∈ pre, isWhiteSpace c = true)
    {n : Nat} (hn : n ≤ 4294967295) (rest : List (List Char)) :
    readArguments ((pre ++ (toString n).toList) :: rest) = (readArguments rest).map (n :: ·) := by
  have hdigits := fun c hc => (not_blank_of_mem_toString (n := n) (c := c) hc).1
  have htrim : trim (pre ++ (toString n).toList) = (toString n).toList := by
    rw [trim, List.dropWhile_append_of_pos hpre, ← trim, trim_eq_self]
    · exact fun c hc => hdigits c (List.mem_of_mem_head? hc)
    · exact fun c hc => hdigits c (List.mem_of_mem_getLast? hc)
  rw [readArguments, htrim, String.ofList_toList, readU32_toString hn]

/-- **The type text of a well-formed data type.** It is the name alone, for a type without
arguments, whose name does not end with the word `NOT`; or the name, `(`, an argument text and
`)`, where the bracketed part is single-spaced and the argument text reads as arguments that
give the data type back. -/
theorem WellFormed.typeText_cases {t : DataType} (hw : t.WellFormed) :
    (t.typeText = t.sqlType.name ∧ t.length = none ∧ t.precision = none ∧ t.scale = none ∧
        endsWithWord "NOT" t.sqlType.name = false) ∨
      ∃ argText args, t.typeText.toList = t.sqlType.name.toList ++ '(' :: (argText ++ [')']) ∧
        SingleSpaced ('(' :: (argText ++ [')'])) ∧ readArguments (splitCommas argText) = .ok args ∧
        ∀ text, withArguments { sqlType := t.sqlType, nullable := t.nullable } text args = .ok t := by
  obtain ⟨ty, p, s, l, nb⟩ := t
  obtain ⟨-, hshape⟩ := hw
  dsimp only at hshape
  have hnoComma : ∀ n : Nat, ',' ∉ (toString n).toList := fun n hc =>
    (not_blank_of_mem_toString hc).2 rfl
  cases hshape with
  | bare hnot => exact .inl ⟨by simp [typeText, argumentText], rfl, rfl, rfl, hnot⟩
  | @length n hlen hn =>
    refine .inr ⟨(toString n).toList, [n], ?_, ?_, ?_, fun text => ?_⟩
    · show (ty.name ++ ("(" ++ toString n ++ ")")).toList = _
      simp
    · simpa using SingleSpaced.word (isWord_written ['('] n [')'] (by simp [isWhiteSpace]) (by simp [isWhiteSpace]))
    · have hread := readArguments_written [] (by simp) hn []
      rw [List.nil_append] at hread
      rw [splitCommas_of_not_mem (hnoComma n), hread]
      rfl
    · simp [withArguments, hlen]
  | @precision q hlen hq =>
    refine .inr ⟨(toString q).toList, [q], ?_, ?_, ?_, fun text => ?_⟩
    · show (ty.name ++ ("(" ++ toString q ++ ")")).toList = _
      simp
    · simpa using SingleSpaced.word (isWord_written ['('] q [')'] (by simp [isWhiteSpace]) (by simp [isWhiteSpace]))
    · have hread := readArguments_written [] (by simp) hq []
      rw [List.nil_append] at hread
      rw [splitCommas_of_not_mem (hnoComma q), hread]
      rfl
    · simp [withArguments, hlen]
  | @scaled q r hscale hle hq =>
    refine .inr ⟨(toString q).toList ++ ',' :: ' ' :: (toString r).toList, [q, r], ?_, ?_, ?_,
      fun text => ?_⟩
    · show (ty.name ++ ("(" ++ toString q ++ ", " ++ toString r ++ ")")).toList = _
      simp
    · -- the bracketed text is two words, `(q,` and `r)`, with a space between them
      have hsplit : '(' :: ((toString q).toList ++ ',' :: ' ' :: (toString r).toList ++ [')']) =
          (['('] ++ (toString q).toList ++ [',']) ++ ' ' :: ([] ++ (toString r).toList ++ [')']) := by
        simp
      rw [hsplit]
      exact SingleSpaced.append_space
        (SingleSpaced.word (isWord_written ['('] q [','] (by simp [isWhiteSpace]) (by simp [isWhiteSpace])))
        (SingleSpaced.word (isWord_written [] r [')'] (by simp) (by simp [isWhiteSpace]))) (by simp) (by simp)
    · have hfirst := readArguments_written [] (by simp) hq [' ' :: (toString r).toList]
      have hsecond := readArguments_written [' '] (by simp [isWhiteSpace])
        (by omega : r ≤ 4294967295) []
      rw [List.nil_append] at hfirst
      rw [List.singleton_append] at hsecond
      rw [splitCommas_append _ (hnoComma q), splitCommas_of_not_mem (by simpa using hnoComma r),
        hfirst, hsecond]
      rfl
    · simp [withArguments, hscale, Nat.not_lt.2 hle]

namespace WellFormed

variable {t : DataType}

/-- The name of a well-formed data type is its own trimmed text. -/
theorem trim_name (hw : t.WellFormed) : trim t.sqlType.name.toList = t.sqlType.name.toList :=
  trim_eq_self hw.name.singleSpaced.head_ne hw.name.singleSpaced.last_ne

/-- The type text of a well-formed data type is not empty. -/
theorem typeText_ne_nil (hw : t.WellFormed) : t.typeText.toList ≠ [] := by
  rw [typeText, String.toList_append]
  exact List.append_ne_nil_of_left_ne_nil hw.name.ne_nil _

/-- The type text of a well-formed data type is single-spaced. -/
theorem singleSpaced_typeText (hw : t.WellFormed) : SingleSpaced t.typeText.toList := by
  rcases hw.typeText_cases with ⟨htext, -⟩ | ⟨argText, args, htext, hargs, -⟩
  · rw [htext]
    exact hw.name.singleSpaced
  · rw [htext]
    exact hw.name.singleSpaced.append hargs

/-- The type text of a well-formed data type reads, by the grammar, as the data type. -/
theorem typeTextReads (hw : t.WellFormed) : TypeTextReads t.nullable t.typeText.toList t := by
  have hty : SqlType.ofName (String.ofList t.sqlType.name.toList) = t.sqlType := by
    rw [String.ofList_toList]
    exact hw.name.ofName_name
  have hname : trim t.sqlType.name.toList ≠ [] := by
    rw [hw.trim_name]
    exact hw.name.ne_nil
  rcases hw.typeText_cases with ⟨htext, hl, hp, hs, -⟩ | ⟨argText, args, htext, -, hargs, happly⟩
  · have hreads : TypeTextReads t.nullable t.sqlType.name.toList
        { sqlType := SqlType.ofName (String.ofList t.sqlType.name.toList), nullable := t.nullable } :=
      TypeTextReads.name hw.name.not_paren hname
    rw [hty] at hreads
    obtain ⟨ty, p, s, l, nb⟩ := t
    dsimp only at htext hl hp hs hreads ⊢
    subst hl hp hs
    rw [htext]
    exact hreads
  · rw [htext]
    refine TypeTextReads.arguments hw.name.not_paren hname hargs ?_
    rw [hty]
    exact happly _

/-- A well-formed type text written with arguments ends with `)`, so with no word whose last
letter is another. -/
theorem endsWithWord_eq_false_of_arguments (hw : t.WellFormed) {argText : List Char}
    (htext : t.typeText.toList = t.sqlType.name.toList ++ '(' :: (argText ++ [')']))
    {word : String} (hword : word.toList.getLast?.map Char.toLower ≠ some (Char.toLower ')')) :
    endsWithWord word t.typeText = false := by
  rw [← @String.ofList_toList t.typeText]
  refine endsWithWord_eq_false hw.singleSpaced_typeText ?_ hword
  rw [htext]
  simp [List.getLast?_cons]

/-- The type text of a well-formed data type does not end with the word `NOT`. -/
theorem endsWithWord_not (hw : t.WellFormed) : endsWithWord "NOT" t.typeText = false := by
  rcases hw.typeText_cases with ⟨htext, -, -, -, hnot⟩ | ⟨argText, args, htext, -⟩
  · rw [htext]
    exact hnot
  · exact hw.endsWithWord_eq_false_of_arguments htext (by decide)

/-- A well-formed data type whose type text ends with the word `NULL` has no arguments. -/
theorem bare_of_endsWithWord_null (hw : t.WellFormed) (h : endsWithWord "NULL" t.typeText = true) :
    t.typeText = t.sqlType.name ∧ t.length = none ∧ t.precision = none := by
  rcases hw.typeText_cases with ⟨htext, hl, hp, -⟩ | ⟨argText, args, htext, -⟩
  · exact ⟨htext, hl, hp⟩
  · rw [hw.endsWithWord_eq_false_of_arguments htext (by decide)] at h
    cases h

end WellFormed

/-- The words of the written form: those of the type text, then `NOT` and `NULL` when nulls are
refused. -/
theorem words_display (t : DataType) :
    (words t.display.toList).map String.ofList =
      (words t.typeText.toList).map String.ofList ++ (if t.nullable then [] else ["NOT", "NULL"]) := by
  rw [display_eq]
  cases t.nullable with
  | true => simp
  | false =>
    have hsuffix : words "NOT NULL".toList = ["NOT".toList, "NULL".toList] := by decide
    simp only [Bool.false_eq_true, if_false, String.toList_append]
    rw [show " NOT NULL".toList = ' ' :: "NOT NULL".toList from rfl,
      words_append_blank (by decide), hsuffix]
    simp

/-- **A nullable type whose written form ends with the word `NULL` does not read back.**
Reading takes that word as the nullability, and the words left name another type, or none. -/
theorem WellFormed.parse_display_ne {t : DataType} (hw : t.WellFormed) (hn : t.nullable = true)
    (hends : endsWithWord "NULL" t.display = true) : parse t.display ≠ .ok t := by
  intro hparse
  have hdisplay : t.display = t.typeText := by simp [display_eq, hn]
  rw [hdisplay] at hends hparse
  obtain ⟨htext, hl, hp⟩ := hw.bare_of_endsWithWord_null hends
  obtain ⟨ws, hstrip, -, -, hreads⟩ := reads_of_parse hparse
  -- the last word is the `NULL` taken as the nullability
  generalize hV : (words t.typeText.toList).map String.ofList = V at hstrip
  have hlastV : V.getLast?.any (sameIgnoringAsciiCase · "NULL") = true := by
    rw [← hV, ← endsWithWord_ofList, String.ofList_toList]
    exact hends
  obtain ⟨x, hx, hxnull⟩ : ∃ x, V.getLast? = some x ∧ sameIgnoringAsciiCase x "NULL" = true := by
    cases hlast : V.getLast? with
    | none => simp [hlast] at hlastV
    | some x => exact ⟨x, rfl, by simpa [hlast] using hlastV⟩
  have hVsplit : V = V.dropLast ++ [x] := (List.dropLast_append_getLast? x hx).symm
  rw [hVsplit, stripNullability_null hxnull] at hstrip
  -- the type allows nulls, so no `NOT` went with it and the other words were kept
  have hws : ws = V.dropLast := by
    split at hstrip
    · rw [hn] at hstrip
      cases hstrip
    · exact (Prod.mk.inj hstrip).1.symm
  subst hws
  have hprefix : V.dropLast <+: (words t.typeText.toList).map String.ofList := by
    rw [hV]
    exact List.dropLast_prefix V
  have hwords : ∀ w ∈ V.dropLast.map String.toList, IsWord w := isWord_of_mem_map_words hprefix
  have hjoin : (" ".intercalate V.dropLast).toList = [' '].intercalate (V.dropLast.map String.toList) := by
    simp
  have hss : SingleSpaced (" ".intercalate V.dropLast).toList := hjoin ▸ SingleSpaced.intercalate hwords
  generalize hcs : (" ".intercalate V.dropLast).toList = cs at hreads hss
  generalize t.nullable = nullable at hreads
  cases hreads with
  | name hparen hname =>
    dsimp only at htext hends
    rcases SqlType.ofName_cases (String.ofList cs) with hstd | hother
    · rw [htext, (SqlType.standard_name _ hstd).2.2] at hends
      cases hends
    · -- a vendor type named by the kept words, one word fewer than its name has
      have hname_eq : (SqlType.ofName (String.ofList cs)).name.toList = cs := by
        rw [hother, SqlType.name, trimText, String.toList_ofList, String.toList_ofList,
          trim_eq_self hss.head_ne hss.last_ne]
      have hkept : V = V.dropLast := by
        refine hV.symm.trans ?_
        rw [htext, hname_eq, ← hcs, hjoin, words_intercalate hwords, List.map_map]
        simp
      have hlen := congrArg List.length hVsplit
      rw [← hkept, List.length_append, List.length_singleton] at hlen
      omega
  | arguments hparen hname hargs happly =>
    -- arguments would have set a length or a precision
    rcases (withArguments_eq_ok happly).2.2 with hsome | hsome
    · rw [hl] at hsome
      cases hsome
    · rw [hp] at hsome
      cases hsome

/-- **A well-formed data type reads back from its written form** exactly when it is not a
nullable type whose written form ends with the word `NULL`: reading would take that word as the
nullability. -/
theorem WellFormed.parse_display_iff {t : DataType} (hw : t.WellFormed) :
    parse t.display = .ok t ↔ ¬(t.nullable = true ∧ endsWithWord "NULL" t.display = true) := by
  have hss := hw.singleSpaced_typeText
  -- the words of the type text join back to it
  have hjoin : (" ".intercalate ((words t.typeText.toList).map String.ofList)).toList =
      t.typeText.toList := by
    simp [List.map_map, hss.intercalate_words]
  constructor
  · rintro hparse ⟨hn, hends⟩
    exact hw.parse_display_ne hn hends hparse
  · intro hcond
    have hstrip : stripNullability ((words t.display.toList).map String.ofList) =
        ((words t.typeText.toList).map String.ofList, t.nullable) := by
      rw [words_display]
      cases hn : t.nullable with
      | false => exact stripNullability_append_notNull _
      | true =>
        rw [if_pos rfl, List.append_nil]
        apply stripNullability_of_not_null
        have hdisplay : t.display = t.typeText := by simp [display_eq, hn]
        rw [← endsWithWord_ofList, String.ofList_toList, ← hdisplay]
        simpa [hn] using hcond
    have hnot : ((words t.typeText.toList).map String.ofList).getLast?.any
        (sameIgnoringAsciiCase · "NOT") = false := by
      rw [← endsWithWord_ofList, String.ofList_toList]
      exact hw.endsWithWord_not
    have hne : (words t.typeText.toList).map String.ofList ≠ [] := by
      intro he
      rw [he] at hjoin
      exact hw.typeText_ne_nil hjoin.symm
    refine parse_of_reads hstrip hnot hne ?_
    rw [hjoin]
    exact hw.typeTextReads

/-- **Written data types read back**, but for one kind. A data type read from any text reads
back from its written form exactly when it is not a nullable type whose written form ends with
the word `NULL`. Such a type is a vendor type without arguments whose name ends with that word,
and it reads back as another type or not at all. -/
theorem display_round_trip_iff {s : String} {t : DataType} (h : parse s = .ok t) :
    parse t.display = .ok t ↔ ¬(t.nullable = true ∧ endsWithWord "NULL" t.display = true) :=
  (wellFormed_of_parse h).parse_display_iff

/-- A vendor type with a precision, read from loosely spaced text, reads back from its written
form `geo point(7)`. -/
theorem vendor_type_reads_back :
    parse "geo  point ( 7 )" = .ok { sqlType := .other "geo point", precision := some 7 } ∧
      parse (display { sqlType := .other "geo point", precision := some 7 }) =
        .ok { sqlType := .other "geo point", precision := some 7 } := by
  have hparse : parse "geo  point ( 7 )" = .ok { sqlType := .other "geo point", precision := some 7 } := by
    decide
  exact ⟨hparse, (display_round_trip_iff hparse).2 (by decide)⟩

/-- The exception: `A NULL NULL` reads as the nullable vendor type `A NULL`, written `A NULL`,
which reads as the vendor type `A`. -/
theorem vendor_null_name_loses_word :
    parse "A NULL NULL" = .ok { sqlType := .other "A NULL" } ∧
      parse (display { sqlType := .other "A NULL" }) = .ok { sqlType := .other "A" } := by
  decide

end DataType

end RecordSchema
