import Mathlib.Data.Nat.Digits.Defs
import RecordSchema.Proofs.DataTypeRead
/-!
# Every outcome of reading a data type

`DataType.parse` answers a data type or one of six errors. This file describes, for every text,
which answer it gives, stage by stage, without mentioning the reader:

* `DataType.NullabilityWords` — the words left once a last `NULL`, and a `NOT` before it, are
  dropped, and whether nulls stay allowed;
* `DataType.ArgumentsOutcome` — what the numbers between the parentheses make of a type: a
  length for `CHAR`, `VARCHAR`, `BINARY` and `VARBINARY` and a precision for the others, or a
  precision and a scale for `DECIMAL`, `NUMERIC` and vendor types, with the scale at most the
  precision;
* `DataType.readU32?_eq_some_iff`, `DataType.ArgumentReads` — a number is an optional `+` and
  at least one ASCII digit, of decimal value at most 4294967295;
* `DataType.ArgumentTextOutcome` — the pieces between the commas are read in order, and the
  first that does not trim to a number is refused;
* `DataType.splitCommas_spec`, `DataType.splitCommas_intercalate` — splitting at every comma
  gives the pieces that, joined by commas, make the text;
* `DataType.TypeTextOutcome` — the words joined by single spaces are a name with no `(`, or a
  name, the first `(`, the arguments and a final `)`; a missing `)` is refused before a blank
  name;
* `DataType.ParseOutcome` — the errors come in the order: a dangling `NOT`, no words at all,
  then the type text's;
* `DataType.parse_eq_iff_outcome` — the main statement: reading a text gives `r` exactly when
  `r` is its outcome.
-/

namespace RecordSchema

open Text

namespace SqlType

/-- A single argument is a length for the character and binary types. -/
theorem hasLength_iff (t : SqlType) : t.hasLength = true ↔ t ∈ [.char, .varchar, .binary, .varbinary] := by
  cases t <;> simp [hasLength]

/-- A scale is taken by the decimal types and by every vendor type. -/
theorem acceptsScale_iff (t : SqlType) :
    t.acceptsScale = true ↔ t ∈ [.decimal, .numeric] ∨ ∃ n, t = .other n := by
  cases t <;> simp [acceptsScale, hasScale]

end SqlType

namespace DataType

/-! ## Nullability words -/

/-- `NullabilityWords ws ws' nullable`: dropping the nullability words from the end of `ws`
leaves `ws'`. A last word `NULL` is dropped, and a `NOT` right before it with it; nulls are
refused exactly when both were. Words are compared ignoring ASCII case. -/
inductive NullabilityWords : List String → List String → Bool → Prop where
  /-- The last word is not `NULL`: nothing is dropped. -/
  | keep {ws : List String} : ws.getLast?.any (sameIgnoringAsciiCase · "NULL") = false →
      NullabilityWords ws ws true
  /-- A last `NULL` with no `NOT` before it. -/
  | null {ws : List String} {w : String} : sameIgnoringAsciiCase w "NULL" = true →
      ws.getLast?.any (sameIgnoringAsciiCase · "NOT") = false → NullabilityWords (ws ++ [w]) ws true
  /-- A last `NOT NULL`. -/
  | notNull {ws : List String} {v w : String} : sameIgnoringAsciiCase v "NOT" = true →
      sameIgnoringAsciiCase w "NULL" = true → NullabilityWords (ws ++ [v, w]) ws false

/-- The nullability stage drops the nullability words. -/
theorem nullabilityWords_stripNullability (ws : List String) :
    NullabilityWords ws (stripNullability ws).1 (stripNullability ws).2 := by
  rcases List.eq_nil_or_concat ws with rfl | ⟨init, last, rfl⟩
  · exact .keep rfl
  rw [List.concat_eq_append]
  by_cases hnull : sameIgnoringAsciiCase last "NULL" = true
  · rw [stripNullability_null hnull]
    by_cases hnot : init.getLast?.any (sameIgnoringAsciiCase · "NOT") = true
    · -- a `NOT` before the `NULL`: it is the last word of `init`
      rw [if_pos hnot]
      rcases List.eq_nil_or_concat init with rfl | ⟨init', prev, rfl⟩
      · cases hnot
      have hprev : sameIgnoringAsciiCase prev "NOT" = true := by simpa using hnot
      rw [List.concat_eq_append, List.dropLast_concat, List.append_assoc]
      exact .notNull hprev hnull
    · rw [if_neg hnot]
      exact .null hnull (by simpa using hnot)
  · rw [stripNullability_of_not_null (by simpa using hnull)]
    exact .keep (by simpa using hnull)

/-- Nullability words are what the nullability stage drops. -/
theorem NullabilityWords.stripNullability_eq {ws ws' : List String} {nullable : Bool}
    (h : NullabilityWords ws ws' nullable) : stripNullability ws = (ws', nullable) := by
  cases h with
  | keep hlast => exact stripNullability_of_not_null hlast
  | null hw hnot =>
    rw [stripNullability_null hw, if_neg (by simp [hnot])]
  | notNull hv hw =>
    rw [List.append_cons, stripNullability_null hw, if_pos (by simp [hv]), List.dropLast_concat]

/-! ## Arguments -/

/-- `ArgumentsOutcome d text ns r`: the numbers `ns`, given as the arguments of the data type
`d` in the type text `text`, give `r`. One number is a length for the character and binary
types and a precision for the others. Two are a precision and a scale, for the decimal and
vendor types only and with the scale at most the precision. Any other count is refused with
the type text. -/
inductive ArgumentsOutcome (d : DataType) (text : String) :
    List Nat → Except DataTypeError DataType → Prop where
  | length {n : Nat} : d.sqlType ∈ [.char, .varchar, .binary, .varbinary] →
      ArgumentsOutcome d text [n] (.ok { d with length := some n })
  | precision {n : Nat} : d.sqlType ∉ [.char, .varchar, .binary, .varbinary] →
      ArgumentsOutcome d text [n] (.ok { d with precision := some n })
  | scale {p s : Nat} : d.sqlType ∈ [.decimal, .numeric] ∨ (∃ n, d.sqlType = .other n) → s ≤ p →
      ArgumentsOutcome d text [p, s] (.ok { d with precision := some p, scale := some s })
  | scaleNotAllowed {p s : Nat} : ¬ (d.sqlType ∈ [.decimal, .numeric] ∨ ∃ n, d.sqlType = .other n) →
      ArgumentsOutcome d text [p, s] (.error (.scaleNotAllowed d.sqlType))
  | scaleExceedsPrecision {p s : Nat} :
      d.sqlType ∈ [.decimal, .numeric] ∨ (∃ n, d.sqlType = .other n) → p < s →
      ArgumentsOutcome d text [p, s] (.error (.scaleExceedsPrecision p s))
  | count {ns : List Nat} : ns.length ≠ 1 → ns.length ≠ 2 →
      ArgumentsOutcome d text ns (.error (.malformedArguments text))

/-- Applying arguments gives their outcome. -/
theorem withArguments_outcome (d : DataType) (text : String) :
    ∀ ns, ArgumentsOutcome d text ns (d.withArguments text ns)
  | [n] => by
    by_cases h : d.sqlType ∈ [.char, .varchar, .binary, .varbinary]
    · rw [withArguments, if_pos ((SqlType.hasLength_iff _).2 h)]
      exact .length h
    · rw [withArguments, if_neg (mt (SqlType.hasLength_iff _).1 h)]
      exact .precision h
  | [p, s] => by
    by_cases hscale : d.sqlType.acceptsScale = true
    · have htakes := (SqlType.acceptsScale_iff _).1 hscale
      rw [withArguments, if_neg (by simp [hscale])]
      by_cases hlt : p < s
      · rw [if_pos hlt]
        exact .scaleExceedsPrecision htakes hlt
      · rw [if_neg hlt]
        exact .scale htakes (Nat.le_of_not_lt hlt)
    · rw [withArguments, if_pos (by simp [hscale])]
      exact .scaleNotAllowed (mt (SqlType.acceptsScale_iff _).2 hscale)
  | [] => .count (by simp) (by simp)
  | _ :: _ :: _ :: _ => .count (by simp) (by simp)

/-- An outcome of arguments is what applying them gives. -/
theorem ArgumentsOutcome.withArguments_eq {d : DataType} {text : String} {ns : List Nat}
    {r : Except DataTypeError DataType} (h : ArgumentsOutcome d text ns r) :
    d.withArguments text ns = r := by
  cases h with
  | length h => rw [withArguments, if_pos ((SqlType.hasLength_iff _).2 h)]
  | precision h => rw [withArguments, if_neg (mt (SqlType.hasLength_iff _).1 h)]
  | scale htakes hle =>
    rw [withArguments, if_neg (by simp [(SqlType.acceptsScale_iff _).2 htakes]),
      if_neg (Nat.not_lt_of_le hle)]
  | scaleNotAllowed htakes =>
    rw [withArguments, if_pos (by simpa using mt (SqlType.acceptsScale_iff _).1 htakes)]
  | scaleExceedsPrecision htakes hlt =>
    rw [withArguments, if_neg (by simp [(SqlType.acceptsScale_iff _).2 htakes]), if_pos hlt]
  | count h1 h2 =>
    match ns, h1, h2 with
    | [], _, _ => rfl
    | _ :: _ :: _ :: _, _, _ => rfl

/-! ## Numbers -/

/-- Reading digits from the left multiplies what was read by ten for each digit. -/
theorem foldl_digitValue (ds : List Char) (a : Nat) :
    ds.foldl (fun acc c => 10 * acc + digitValue c) a =
      a * 10 ^ ds.length + Nat.ofDigits 10 (ds.map digitValue).reverse := by
  induction ds generalizing a with
  | nil => simp
  | cons c ds ih =>
    rw [List.foldl_cons, ih, List.map_cons, List.reverse_cons, Nat.ofDigits_append,
      List.length_cons, List.length_reverse, List.length_map, Nat.ofDigits_singleton, pow_succ]
    ring

/-- The digit stage of reading a number: at least one ASCII digit, with a decimal value of at
most 4294967295. -/
theorem readDigits_eq_some_iff (ds : List Char) (n : Nat) :
    (if (ds.isEmpty || !ds.all Char.isDigit) = true then none
      else if ds.foldl (fun acc c => 10 * acc + digitValue c) 0 ≤ 4294967295 then
        some (ds.foldl (fun acc c => 10 * acc + digitValue c) 0) else none) = some n ↔
      ds ≠ [] ∧ (∀ c ∈ ds, c.isDigit = true) ∧
        Nat.ofDigits 10 (ds.map digitValue).reverse = n ∧ n ≤ 4294967295 := by
  rw [foldl_digitValue, zero_mul, zero_add]
  by_cases hbad : (ds.isEmpty || !ds.all Char.isDigit) = true
  · rw [if_pos hbad]
    simp only [reduceCtorEq, false_iff]
    rintro ⟨hne, hdigits, -⟩
    simp only [Bool.or_eq_true, List.isEmpty_iff, hne, false_or, Bool.not_eq_true',
      List.all_eq_false] at hbad
    obtain ⟨c, hc, hnot⟩ := hbad
    rw [hdigits c hc] at hnot
    exact hnot rfl
  · rw [if_neg hbad]
    have hshape : ds ≠ [] ∧ ∀ c ∈ ds, c.isDigit = true := by simpa using hbad
    by_cases hle : Nat.ofDigits 10 (ds.map digitValue).reverse ≤ 4294967295
    · rw [if_pos hle, Option.some_inj]
      constructor
      · rintro rfl
        exact ⟨hshape.1, hshape.2, rfl, hle⟩
      · rintro ⟨-, -, hn, -⟩
        exact hn
    · rw [if_neg hle]
      simp only [reduceCtorEq, false_iff]
      rintro ⟨-, -, rfl, hn⟩
      exact hle hn

/-- **Numbers.** A text reads as the number `n` exactly when it is an optional `+` followed by
at least one ASCII digit, and `n`, the decimal value of the digits, is at most 4294967295. -/
theorem readU32?_eq_some_iff (s : String) (n : Nat) :
    readU32? s = some n ↔ ∃ digits : List Char, (s.toList = digits ∨ s.toList = '+' :: digits) ∧
      digits ≠ [] ∧ (∀ c ∈ digits, c.isDigit = true) ∧
      Nat.ofDigits 10 (digits.map digitValue).reverse = n ∧ n ≤ 4294967295 := by
  unfold readU32?
  split
  · rename_i ds hs
    dsimp only
    rw [readDigits_eq_some_iff]
    constructor
    · intro h
      exact ⟨ds, .inr hs, h⟩
    · rintro ⟨digits, hd | hd, h⟩
      · -- the whole text cannot be the digits: it starts with `+`
        rw [hs] at hd
        subst hd
        exact absurd (h.2.1 '+' List.mem_cons_self) (by decide)
      · rw [hs, List.cons.injEq] at hd
        rw [hd.2]
        exact h
  · rename_i hs
    dsimp only
    rw [readDigits_eq_some_iff]
    constructor
    · intro h
      exact ⟨_, .inl rfl, h⟩
    · rintro ⟨digits, hd | hd, h⟩
      · rw [hd]
        exact h
      · exact absurd hd (hs digits)

/-! ## Argument pieces -/

/-- An argument piece reads as `n`: trimmed, it is an optional `+` and at least one ASCII digit,
whose decimal value `n` is at most 4294967295. -/
def ArgumentReads (piece : List Char) (n : Nat) : Prop :=
  ∃ digits : List Char, (trim piece = digits ∨ trim piece = '+' :: digits) ∧ digits ≠ [] ∧
    (∀ c ∈ digits, c.isDigit = true) ∧ Nat.ofDigits 10 (digits.map digitValue).reverse = n ∧
    n ≤ 4294967295

/-- A piece reads as a number exactly when its trimmed text does. -/
theorem argumentReads_iff {piece : List Char} {n : Nat} :
    ArgumentReads piece n ↔ readU32? (String.ofList (trim piece)) = some n := by
  rw [readU32?_eq_some_iff, String.toList_ofList]
  rfl

/-- A piece that reads as no number. -/
theorem readU32?_eq_none_iff {piece : List Char} :
    readU32? (String.ofList (trim piece)) = none ↔ ¬ ∃ n, ArgumentReads piece n := by
  simp only [argumentReads_iff, not_exists, Option.eq_none_iff_forall_ne_some]

/-- Pieces without commas, joined by commas, split back into themselves. -/
theorem splitCommas_intercalate : ∀ {pieces : List (List Char)}, pieces ≠ [] →
    (∀ p ∈ pieces, ',' ∉ p) → splitCommas ([','].intercalate pieces) = pieces
  | [], hne, _ => absurd rfl hne
  | [p], _, hcomma => by
    rw [List.intercalate_singleton, splitCommas_of_not_mem (hcomma p List.mem_cons_self)]
  | p :: q :: rest, _, hcomma => by
    rw [List.intercalate_cons_cons, List.append_assoc, List.singleton_append,
      splitCommas_append _ (hcomma p List.mem_cons_self),
      splitCommas_intercalate (List.cons_ne_nil q rest)
        fun x hx => hcomma x (List.mem_cons_of_mem p hx)]

/-- Splitting at every comma gives pieces without commas that, joined by commas, give the text
back. -/
theorem splitCommas_spec : ∀ cs : List Char,
    (∀ p ∈ splitCommas cs, ',' ∉ p) ∧ [','].intercalate (splitCommas cs) = cs
  | [] => ⟨by simp [splitCommas], rfl⟩
  | c :: cs => by
    obtain ⟨hcomma, hjoin⟩ := splitCommas_spec cs
    obtain ⟨piece, pieces, hsplit⟩ := List.exists_cons_of_ne_nil (splitCommas_ne_nil cs)
    rw [hsplit] at hcomma hjoin
    rw [splitCommas, hsplit]
    dsimp only
    by_cases hc : c = ','
    · -- a comma starts a new, empty, piece
      rw [if_pos hc]
      refine ⟨?_, ?_⟩
      · intro p hp
        rcases List.mem_cons.1 hp with rfl | hp
        · exact List.not_mem_nil
        · exact hcomma p hp
      · rw [List.intercalate_cons_cons, hjoin, hc]
        rfl
    · rw [if_neg hc]
      refine ⟨?_, ?_⟩
      · intro p hp
        rcases List.mem_cons.1 hp with rfl | hp
        · exact List.not_mem_cons_of_ne_of_not_mem (Ne.symm hc) (hcomma piece List.mem_cons_self)
        · exact hcomma p (List.mem_cons_of_mem piece hp)
      · rw [List.intercalate_cons_cons_left, hjoin]

/-- `ArgumentTextOutcome d text pieces r`: the argument pieces `pieces` of the data type `d` in
the type text `text` give `r`. The first piece that does not read as a number is refused,
trimmed; when every piece reads, the numbers give their outcome. -/
inductive ArgumentTextOutcome (d : DataType) (text : String) :
    List (List Char) → Except DataTypeError DataType → Prop where
  | invalid {pre post : List (List Char)} {piece : List Char} {ns : List Nat} :
      List.Forall₂ ArgumentReads pre ns → ¬ (∃ n, ArgumentReads piece n) →
      ArgumentTextOutcome d text (pre ++ piece :: post)
        (.error (.invalidArgument (String.ofList (trim piece))))
  | numbers {pieces : List (List Char)} {ns : List Nat} {r : Except DataTypeError DataType} :
      List.Forall₂ ArgumentReads pieces ns → ArgumentsOutcome d text ns r →
      ArgumentTextOutcome d text pieces r

/-- Pieces that all read give their numbers. -/
theorem readArguments_of_forall₂ {pieces : List (List Char)} {ns : List Nat}
    (h : List.Forall₂ ArgumentReads pieces ns) : readArguments pieces = .ok ns := by
  induction h with
  | nil => rfl
  | cons hread _ ih =>
    rw [readArguments, argumentReads_iff.1 hread]
    simp only [ih]
    rfl

/-- The first piece that does not read is refused. -/
theorem readArguments_invalid {pre : List (List Char)} {ns : List Nat} {piece : List Char}
    (hpre : List.Forall₂ ArgumentReads pre ns) (hpiece : ¬ ∃ n, ArgumentReads piece n)
    (post : List (List Char)) :
    readArguments (pre ++ piece :: post) = .error (.invalidArgument (String.ofList (trim piece))) := by
  induction hpre with
  | nil => rw [List.nil_append, readArguments, readU32?_eq_none_iff.2 hpiece]
  | cons hread _ ih =>
    rw [List.cons_append, readArguments, argumentReads_iff.1 hread]
    simp only [ih]
    rfl

/-- Reading the pieces gives the numbers of all of them, or refuses the first that does not
read. -/
theorem readArguments_cases (pieces : List (List Char)) :
    (∃ ns, List.Forall₂ ArgumentReads pieces ns) ∨
      ∃ pre piece post ns, pieces = pre ++ piece :: post ∧ List.Forall₂ ArgumentReads pre ns ∧
        ¬ ∃ n, ArgumentReads piece n := by
  induction pieces with
  | nil => exact .inl ⟨[], .nil⟩
  | cons p ps ih =>
    cases hp : readU32? (String.ofList (trim p)) with
    | none => exact .inr ⟨[], p, ps, [], rfl, .nil, readU32?_eq_none_iff.1 hp⟩
    | some n =>
      have hread := argumentReads_iff.2 hp
      rcases ih with ⟨ns, hall⟩ | ⟨pre, piece, post, ns, rfl, hpre, hpiece⟩
      · exact .inl ⟨n :: ns, .cons hread hall⟩
      · exact .inr ⟨p :: pre, piece, post, n :: ns, rfl, .cons hread hpre, hpiece⟩

/-- Reading the pieces and applying the numbers gives their outcome. -/
theorem readArguments_outcome (d : DataType) (text : String) (pieces : List (List Char)) :
    ArgumentTextOutcome d text pieces
      (match readArguments pieces with
        | .error e => .error e
        | .ok ns => d.withArguments text ns) := by
  rcases readArguments_cases pieces with ⟨ns, hall⟩ | ⟨pre, piece, post, ns, rfl, hpre, hpiece⟩
  · rw [readArguments_of_forall₂ hall]
    exact .numbers hall (withArguments_outcome d text ns)
  · rw [readArguments_invalid hpre hpiece post]
    exact .invalid hpre hpiece

/-- An outcome of argument pieces is what reading them and applying the numbers gives. -/
theorem ArgumentTextOutcome.readArguments_eq {d : DataType} {text : String}
    {pieces : List (List Char)} {r : Except DataTypeError DataType}
    (h : ArgumentTextOutcome d text pieces r) :
    (match readArguments pieces with
      | .error e => .error e
      | .ok ns => d.withArguments text ns) = r := by
  cases h with
  | invalid hpre hpiece => rw [readArguments_invalid hpre hpiece]
  | numbers hall hout =>
    rw [readArguments_of_forall₂ hall]
    exact hout.withArguments_eq

/-! ## The type text -/

/-- `TypeTextOutcome nullable cs r`: the type text `cs`, read with the nullability `nullable`,
gives `r`. A text with no `(` is a name, refused when blank. Otherwise the name ends at the
first `(`; the text must end with `)`, else it is refused whole, and only then is a blank name
refused; the pieces between the parentheses, which joined by commas make the argument text,
give the rest. -/
inductive TypeTextOutcome (nullable : Bool) : List Char → Except DataTypeError DataType → Prop where
  | name {cs : List Char} : '(' ∉ cs → trim cs ≠ [] →
      TypeTextOutcome nullable cs (.ok { sqlType := SqlType.ofName (String.ofList cs), nullable })
  | blankName {cs : List Char} : '(' ∉ cs → trim cs = [] → TypeTextOutcome nullable cs (.error .empty)
  | unclosed {name rest : List Char} : '(' ∉ name → rest.getLast? ≠ some ')' →
      TypeTextOutcome nullable (name ++ '(' :: rest)
        (.error (.malformedArguments (String.ofList (name ++ '(' :: rest))))
  | blankNameArguments {name argText : List Char} : '(' ∉ name → trim name = [] →
      TypeTextOutcome nullable (name ++ '(' :: (argText ++ [')'])) (.error .empty)
  | arguments {name : List Char} {pieces : List (List Char)} {r : Except DataTypeError DataType} :
      '(' ∉ name → trim name ≠ [] → pieces ≠ [] → (∀ p ∈ pieces, ',' ∉ p) →
      ArgumentTextOutcome { sqlType := SqlType.ofName (String.ofList name), nullable }
        (String.ofList (name ++ '(' :: ([','].intercalate pieces ++ [')']))) pieces r →
      TypeTextOutcome nullable (name ++ '(' :: ([','].intercalate pieces ++ [')'])) r

/-- A text has no `(`, or is a name with no `(` followed by the first `(` and the rest. -/
theorem paren_cases : ∀ cs : List Char,
    '(' ∉ cs ∨ ∃ name rest, '(' ∉ name ∧ cs = name ++ '(' :: rest
  | [] => .inl List.not_mem_nil
  | c :: cs => by
    by_cases hc : c = '('
    · exact .inr ⟨[], cs, List.not_mem_nil, by rw [hc, List.nil_append]⟩
    rcases paren_cases cs with hcs | ⟨name, rest, hname, rfl⟩
    · exact .inl (by simp [hcs, Ne.symm hc])
    · exact .inr ⟨c :: name, rest, by simp [hname, Ne.symm hc], rfl⟩

/-- The stage of `parse` that reads the type text, once the nullability is known. -/
def readTypeText (nullable : Bool) (text : String) : Except DataTypeError DataType :=
  let (nameChars, rest) := text.toList.span (· ≠ '(')
  match rest with
  | [] =>
    if (Text.trim nameChars).isEmpty then .error .empty
    else .ok { sqlType := SqlType.ofName (String.ofList nameChars), nullable }
  | _ :: inner =>
    if inner.getLast? ≠ some ')' then .error (.malformedArguments text)
    else if (Text.trim nameChars).isEmpty then .error .empty
    else
      let d : DataType := { sqlType := SqlType.ofName (String.ofList nameChars), nullable }
      match readArguments (splitCommas inner.dropLast) with
      | .error e => .error e
      | .ok args => d.withArguments text args

/-- Reading a data type is the nullability stage, two checks on the words left, and the type
text stage. -/
theorem parse_eq_readTypeText (s : String) :
    parse s =
      let (words, nullable) := stripNullability ((words s.toList).map String.ofList)
      if words.getLast?.any (sameIgnoringAsciiCase · "NOT") then .error .danglingNot
      else if words.isEmpty then .error .empty
      else readTypeText nullable (" ".intercalate words) := rfl

/-- Reading a type text gives its outcome. -/
theorem readTypeText_outcome (nullable : Bool) (cs : List Char) :
    TypeTextOutcome nullable cs (readTypeText nullable (String.ofList cs)) := by
  unfold readTypeText
  rw [String.toList_ofList]
  rcases paren_cases cs with hparen | ⟨name, rest, hparen, rfl⟩
  · -- no `(`: the whole text is the name
    rw [span_of_not_mem hparen]
    dsimp only
    by_cases hname : trim cs = []
    · rw [if_pos (by simp [hname])]
      exact .blankName hparen hname
    · rw [if_neg (by simpa using hname)]
      exact .name hparen hname
  · rw [span_append_paren hparen]
    dsimp only
    by_cases hclose : rest.getLast? = some ')'
    · rw [if_neg (not_not.2 hclose)]
      obtain ⟨argText, rfl⟩ : ∃ argText, rest = argText ++ [')'] :=
        ⟨rest.dropLast, (List.dropLast_append_getLast? ')' hclose).symm⟩
      by_cases hname : trim name = []
      · rw [if_pos (by simp [hname])]
        exact .blankNameArguments hparen hname
      · rw [if_neg (by simpa using hname), List.dropLast_concat]
        -- the argument text is its pieces joined by commas
        obtain ⟨hcomma, hjoin⟩ := splitCommas_spec argText
        have hpieces := splitCommas_ne_nil argText
        generalize splitCommas argText = pieces at hcomma hjoin hpieces ⊢
        subst hjoin
        exact .arguments hparen hname hpieces hcomma (readArguments_outcome _ _ _)
    · rw [if_pos hclose]
      exact .unclosed hparen hclose

/-- An outcome of a type text is what reading it gives. -/
theorem TypeTextOutcome.readTypeText_eq {nullable : Bool} {cs : List Char}
    {r : Except DataTypeError DataType} (h : TypeTextOutcome nullable cs r) :
    readTypeText nullable (String.ofList cs) = r := by
  unfold readTypeText
  rw [String.toList_ofList]
  cases h with
  | name hparen hname =>
    rw [span_of_not_mem hparen]
    exact if_neg (by simpa using hname)
  | blankName hparen hname =>
    rw [span_of_not_mem hparen]
    exact if_pos (by simp [hname])
  | unclosed hparen hclose =>
    rw [span_append_paren hparen]
    exact if_pos hclose
  | blankNameArguments hparen hname =>
    rw [span_append_paren hparen]
    dsimp only
    rw [if_neg (by simp), if_pos (by simp [hname])]
  | arguments hparen hname hne hcomma hargs =>
    rw [span_append_paren hparen]
    dsimp only
    rw [if_neg (by simp), if_neg (by simpa using hname), List.dropLast_concat,
      splitCommas_intercalate hne hcomma]
    exact hargs.readArguments_eq

/-! ## Reading a data type -/

/-- `ParseOutcome s r`: reading the text `s` as a data type gives `r`. The text's words lose
their nullability words; words left that end with `NOT` are refused first, no words at all
next, and the words left, joined by single spaces, give the outcome of their type text. -/
inductive ParseOutcome (s : String) : Except DataTypeError DataType → Prop where
  | danglingNot {ws : List String} {nullable : Bool} :
      NullabilityWords ((words s.toList).map String.ofList) ws nullable →
      ws.getLast?.any (sameIgnoringAsciiCase · "NOT") = true → ParseOutcome s (.error .danglingNot)
  | empty {nullable : Bool} : NullabilityWords ((words s.toList).map String.ofList) [] nullable →
      ParseOutcome s (.error .empty)
  | typeText {ws : List String} {nullable : Bool} {r : Except DataTypeError DataType} :
      NullabilityWords ((words s.toList).map String.ofList) ws nullable → ws ≠ [] →
      ws.getLast?.any (sameIgnoringAsciiCase · "NOT") = false →
      TypeTextOutcome nullable (" ".intercalate ws).toList r → ParseOutcome s r

/-- Reading a text gives its outcome. -/
theorem parse_outcome (s : String) : ParseOutcome s (parse s) := by
  rw [parse_eq_readTypeText]
  have hwords := nullabilityWords_stripNullability ((words s.toList).map String.ofList)
  generalize stripNullability ((words s.toList).map String.ofList) = st at hwords ⊢
  obtain ⟨ws, nullable⟩ := st
  dsimp only at hwords ⊢
  by_cases hnot : ws.getLast?.any (sameIgnoringAsciiCase · "NOT") = true
  · rw [if_pos hnot]
    exact .danglingNot hwords hnot
  rw [if_neg hnot]
  by_cases hempty : ws = []
  · subst hempty
    exact .empty hwords
  rw [if_neg (by simpa using hempty)]
  have hout := readTypeText_outcome nullable (" ".intercalate ws).toList
  rw [String.ofList_toList] at hout
  exact .typeText hwords hempty (by simpa using hnot) hout

/-- An outcome of a text is what reading it gives. -/
theorem ParseOutcome.parse_eq {s : String} {r : Except DataTypeError DataType}
    (h : ParseOutcome s r) : parse s = r := by
  rw [parse_eq_readTypeText]
  cases h with
  | danglingNot hwords hnot =>
    rw [hwords.stripNullability_eq]
    exact if_pos hnot
  | empty hwords =>
    rw [hwords.stripNullability_eq]
    rfl
  | typeText hwords hne hnot htext =>
    rw [hwords.stripNullability_eq]
    dsimp only
    rw [if_neg (by simp [hnot]), if_neg (by simpa using hne)]
    have h := htext.readTypeText_eq
    rw [String.ofList_toList] at h
    exact h

/-- **Every outcome of reading a data type.** For every text `s` and every answer `r`, reading
`s` gives `r` exactly when `r` is the outcome of `s`: the words of `s` lose a last `NULL`, and
a `NOT` before it, which alone make the type refuse nulls; words left that end with `NOT` are
refused, then no words; the rest, joined by single spaces, is a name with no `(`, or a name,
the first `(`, comma-separated pieces and a final `)`, with a missing `)` refused before a
blank name; the pieces must each trim to an unsigned 32-bit number, the first that does not
being refused; one number is a length for `CHAR`, `VARCHAR`, `BINARY` and `VARBINARY` and a
precision otherwise, and two are a precision and a scale, only for `DECIMAL`, `NUMERIC` and
vendor types and only with the scale at most the precision. -/
theorem parse_eq_iff_outcome (s : String) (r : Except DataTypeError DataType) :
    parse s = r ↔ ParseOutcome s r := by
  constructor
  · rintro rfl
    exact parse_outcome s
  · exact ParseOutcome.parse_eq

end DataType

end RecordSchema
