import RecordSchema.Proofs.NameText
/-!
# The grammar of written names

`Name.parse` reads a name with a character machine. This file says, without the machine, which
texts it accepts and how it refuses the others.

A written name is a run of segments separated by dots (`Name.Written`). A segment
(`Name.Segment`) is either a bare run of characters other than dots and double quotes, standing
for its trimmed text, or white space, a quoted part with each double quote doubled, and white
space, standing for its content; no segment stands for an empty part. A text that is not
written is refused at its first segment that goes wrong (`Name.Refused`), in one of the ways
`Name.BadSegment` lists, with the byte offset of the character at fault; a text of white space
only is refused as a whole.

* `Name.readFrom_blank`, `Name.readFrom_afterPart_blank` — the machine runs through white
  space, the byte offset moving along, as it runs through bare runs and quoted bodies;
* `Name.readFrom_segment`, `Name.readFrom_badSegment` — one segment, well formed or not;
* `Name.segment_cases` — every text starts with a segment followed by the end or a dot, or with
  a segment that goes wrong; hence `Name.written_or_refused`;
* `Name.parse_eq_iff_written_refused` — the main statement: `parse` accepts exactly the written
  names, with their parts, and refuses every other text with the error of its first fault.
-/

namespace RecordSchema

namespace Name

/-! ## The grammar -/

/-- White space only. -/
def Blank (w : List Char) : Prop := ∀ c ∈ w, Text.isWhiteSpace c = true

/-- A run that may stand in a bare part: no dot and no double quote. -/
def BareRun (r : List Char) : Prop := '.' ∉ r ∧ '"' ∉ r

/-- The written form of one part, with the white space around it, and the part it stands for.
A bare run that is not all white space stands for its trimmed text; a double quote, the
content with each double quote doubled and a closing double quote, between white space, stand
for the content, which may not be empty. -/
inductive Segment : List Char → List Char → Prop
  | bare {r : List Char} : BareRun r → Text.trim r ≠ [] → Segment r (Text.trim r)
  | quoted {w₁ w₂ c : List Char} : Blank w₁ → Blank w₂ → c ≠ [] →
      Segment (w₁ ++ '"' :: (doubleQuotes c ++ '"' :: w₂)) c

/-- A written name: segments separated by dots, standing for the parts in order. -/
inductive Written : List Char → List (List Char) → Prop
  | last {seg p : List Char} : Segment seg p → Written seg [p]
  | cons {seg p rest : List Char} {ps : List (List Char)} : Segment seg p → Written rest ps →
      Written (seg ++ '.' :: rest) (p :: ps)

/-- How the segment that starts after `k` parts, at byte offset `pos`, goes wrong. White space
alone before the end or a dot, and an empty quoted part, are the empty part `k`; a quoted part
never closed is refused at its opening quote; a double quote in a bare part, and a character
other than white space and a dot after a closed quoted part, are refused where they stand. -/
inductive BadSegment (k pos : Nat) : List Char → NameError → Prop
  | blank {w : List Char} : Blank w → BadSegment k pos w (.emptyPart k)
  | blankDot {w rest : List Char} : Blank w → BadSegment k pos (w ++ '.' :: rest) (.emptyPart k)
  | emptyQuoted {w rest : List Char} : Blank w → rest.head? ≠ some '"' →
      BadSegment k pos (w ++ '"' :: '"' :: rest) (.emptyPart k)
  | unclosed {w c : List Char} : Blank w →
      BadSegment k pos (w ++ '"' :: doubleQuotes c)
        (.unterminatedQuote (pos + (String.ofList w).utf8ByteSize))
  | quoteInBare {w r rest : List Char} : Blank w → BareRun r → Text.trim r ≠ [] →
      BadSegment k pos (w ++ r ++ '"' :: rest)
        (.unexpectedCharacter '"' (pos + (String.ofList (w ++ r)).utf8ByteSize))
  | afterQuoted {w c w₂ rest : List Char} {x : Char} : Blank w → c ≠ [] → Blank w₂ →
      Text.isWhiteSpace x = false → x ≠ '.' → (w₂ = [] → x ≠ '"') →
      BadSegment k pos (w ++ '"' :: (doubleQuotes c ++ '"' :: (w₂ ++ x :: rest)))
        (.unexpectedCharacter x
          (pos + (String.ofList (w ++ '"' :: (doubleQuotes c ++ '"' :: w₂))).utf8ByteSize))

/-- A text refused with `e`, read from byte offset `pos` after `k` parts: its first segment
goes wrong, or it is well formed and followed by a dot, and the rest is refused after `k + 1`
parts. -/
inductive Refused : Nat → Nat → List Char → NameError → Prop
  | here {k pos : Nat} {cs : List Char} {e : NameError} : BadSegment k pos cs e →
      Refused k pos cs e
  | next {k pos : Nat} {seg p rest : List Char} {e : NameError} : Segment seg p →
      Refused (k + 1) (pos + (String.ofList seg).utf8ByteSize + 1) rest e →
      Refused k pos (seg ++ '.' :: rest) e

/-! ## Sizes and small facts -/

/-- White space is neither a dot nor a double quote. -/
theorem Blank.not_mem {w : List Char} (hw : Blank w) : '.' ∉ w ∧ '"' ∉ w :=
  ⟨fun h => absurd (hw '.' h) (by decide), fun h => absurd (hw '"' h) (by decide)⟩

theorem Blank.append {a b : List Char} (ha : Blank a) (hb : Blank b) : Blank (a ++ b) := by
  intro c hc
  rcases List.mem_append.1 hc with h | h
  · exact ha c h
  · exact hb c h

/-- White space in front does not change the trimmed text. -/
theorem trim_blank_append {w : List Char} (hw : Blank w) (cs : List Char) :
    Text.trim (w ++ cs) = Text.trim cs := by
  rw [Text.trim, Text.trim, List.dropWhile_append_of_pos hw]

/-- A text trims to nothing exactly when it is white space only. -/
theorem trim_eq_nil_iff (cs : List Char) : Text.trim cs = [] ↔ Blank cs := by
  constructor
  · intro h c hc
    by_contra hws
    have hsplit := List.takeWhile_append_dropWhile (p := Text.isWhiteSpace) (l := cs)
    -- the first character that is not white space survives trimming
    cases hdrop : cs.dropWhile Text.isWhiteSpace with
    | nil =>
      rw [List.dropWhile_eq_nil_iff] at hdrop
      exact hws (hdrop c hc)
    | cons x rest =>
      have hx : Text.isWhiteSpace x = false := by
        have := List.head?_dropWhile_not Text.isWhiteSpace cs
        rw [hdrop] at this
        simpa using this
      have hblank : Blank (cs.takeWhile Text.isWhiteSpace) :=
        fun d hd => List.mem_takeWhile_imp hd
      rw [hdrop] at hsplit
      rw [← hsplit, trim_blank_append hblank] at h
      exact Text.trim_ne_nil hx h
  · intro h
    rw [Text.trim, List.dropWhile_eq_nil_iff.2 h]
    rfl

/-- A text that is not all white space is white space, then a character that is not, then the
rest, and trims as that character and the rest. -/
theorem exists_blank_cons {r : List Char} (h : Text.trim r ≠ []) :
    ∃ w x r', r = w ++ x :: r' ∧ Blank w ∧ Text.isWhiteSpace x = false ∧
      Text.trim (x :: r') = Text.trim r := by
  have hsplit := List.takeWhile_append_dropWhile (p := Text.isWhiteSpace) (l := r)
  have hblank : Blank (r.takeWhile Text.isWhiteSpace) := fun d hd => List.mem_takeWhile_imp hd
  cases hdrop : r.dropWhile Text.isWhiteSpace with
  | nil =>
    rw [hdrop, List.append_nil] at hsplit
    exact absurd ((trim_eq_nil_iff r).2 (hsplit ▸ hblank)) h
  | cons x r' =>
    have hx : Text.isWhiteSpace x = false := by
      have := List.head?_dropWhile_not Text.isWhiteSpace r
      rw [hdrop] at this
      simpa using this
    rw [hdrop] at hsplit
    exact ⟨_, x, r', hsplit.symm, hblank, hx, by rw [← hsplit, trim_blank_append hblank]⟩

/-! ## Runs of the machine, with their offsets -/

section Runs

variable (parts : List String)

/-- White space before a part is skipped, the offset moving past it. -/
theorem readFrom_blank {w : List Char} (hw : Blank w) (pos : Nat) (cs : List Char) :
    readFrom .beforePart parts pos (w ++ cs) =
      readFrom .beforePart parts (pos + (String.ofList w).utf8ByteSize) cs := by
  induction w generalizing pos with
  | nil => simp
  | cons c w ih =>
    rw [List.cons_append, readFrom_beforePart_blank parts pos _ (hw c List.mem_cons_self),
      ih (fun d hd => hw d (List.mem_cons_of_mem c hd)), utf8ByteSize_ofList_cons, Nat.add_assoc]

/-- White space after a part is skipped, the offset moving past it. -/
theorem readFrom_afterPart_blank {w : List Char} (hw : Blank w) (pos : Nat) (cs : List Char) :
    readFrom .afterPart parts pos (w ++ cs) =
      readFrom .afterPart parts (pos + (String.ofList w).utf8ByteSize) cs := by
  induction w generalizing pos with
  | nil => simp
  | cons c w ih =>
    rw [List.cons_append, readFrom_afterPart_cons, stepAfterPart, if_pos (hw c List.mem_cons_self)]
    dsimp only
    rw [ih (fun d hd => hw d (List.mem_cons_of_mem c hd)), utf8ByteSize_ofList_cons, Nat.add_assoc]

/-- An empty quoted part, not followed by a double quote, is refused as an empty part. -/
theorem readFrom_closing_empty (start pos : Nat) {rest : List Char} (hrest : rest.head? ≠ some '"') :
    readFrom (.closing start []) parts pos rest = .error (.emptyPart parts.length) := by
  have hpush : pushPart parts [] = .error (.emptyPart parts.length) := rfl
  cases rest with
  | nil => rw [readFrom_closing_nil, List.reverse_nil, hpush]
  | cons x rest =>
    have hx : x ≠ '"' := fun h => hrest (by rw [h]; rfl)
    rw [readFrom_closing_cons parts pos rest start [] hx, List.reverse_nil, hpush]

/-- White space and a bare run that is not all white space take the reader from before a part
into the bare part, holding the run's trimmed text. -/
theorem readFrom_bare_start {r : List Char} (hr : BareRun r) (hne : Text.trim r ≠ []) (pos : Nat)
    (cs : List Char) :
    ∃ acc, Text.trim acc.reverse = Text.trim r ∧
      readFrom .beforePart parts pos (r ++ cs) =
        readFrom (.bare acc) parts (pos + (String.ofList r).utf8ByteSize) cs := by
  obtain ⟨w, x, r', rfl, hw, hx, htrim⟩ := exists_blank_cons hne
  have hdot : x ≠ '.' := fun h => hr.1 (by simp [h])
  have hquote : x ≠ '"' := fun h => hr.2 (by simp [h])
  have hr' : BareRun r' := ⟨fun h => hr.1 (by simp [h]), fun h => hr.2 (by simp [h])⟩
  refine ⟨r'.reverse ++ [x], by simpa using htrim, ?_⟩
  rw [List.append_assoc, readFrom_blank parts hw, List.cons_append,
    readFrom_beforePart_bare parts _ _ hx hquote hdot, readFrom_bare_run parts hr']
  simp only [utf8ByteSize_ofList_append, utf8ByteSize_ofList_cons]
  congr 1
  omega

end Runs

/-! ## One segment -/

section Segments

variable (parts : List String)

/-- **One segment.** A segment followed by the end of the text or a dot takes the reader from
before a part to after it, with the part added and the offset moved past the segment. -/
theorem readFrom_segment {seg p : List Char} (h : Segment seg p) (pos : Nat) {rest : List Char}
    (hrest : EndsPart rest) :
    readFrom .beforePart parts pos (seg ++ rest) =
      readFrom .afterPart (parts ++ [String.ofList p]) (pos + (String.ofList seg).utf8ByteSize)
        rest := by
  cases h with
  | bare hr hne =>
    obtain ⟨acc, htrim, hrun⟩ := readFrom_bare_start parts hr hne pos rest
    rw [hrun, readFrom_bare_end parts acc (htrim ▸ hne) _ hrest, htrim]
  | quoted hw₁ hw₂ hc =>
    rename_i w₁ w₂
    -- after the closing quote comes white space, then the end or a dot: never a second quote
    have hnext : (w₂ ++ rest).head? ≠ some '"' := by
      intro hq
      cases w₂ with
      | nil =>
        rcases hrest with rfl | ⟨more, rfl⟩ <;> simp at hq
      | cons y w₂ =>
        simp only [List.cons_append, List.head?_cons, Option.some.injEq] at hq
        exact absurd (hw₂ y List.mem_cons_self) (by rw [hq]; decide)
    rw [List.append_assoc, readFrom_blank parts hw₁, List.cons_append, readFrom_beforePart_quote,
      List.append_assoc, readFrom_quoted_body, List.append_nil, List.cons_append,
      readFrom_quoted_quote, readFrom_closing_end parts _ (List.reverse_ne_nil_iff.2 hc) _ hnext,
      List.reverse_reverse, readFrom_afterPart_blank _ hw₂]
    simp only [utf8ByteSize_ofList_append, utf8ByteSize_ofList_cons, utf8Size_quote]
    congr 1
    omega

/-- **A segment that goes wrong** is refused with its error. -/
theorem readFrom_badSegment {pos : Nat} {cs : List Char} {e : NameError}
    (h : BadSegment parts.length pos cs e) : readFrom .beforePart parts pos cs = .error e := by
  cases h with
  | blank hw =>
    have hread := readFrom_blank parts hw pos []
    rw [List.append_nil] at hread
    rw [hread, readFrom_beforePart_nil]
  | blankDot hw => rw [readFrom_blank parts hw, readFrom_beforePart_dot]
  | emptyQuoted hw hrest =>
    rw [readFrom_blank parts hw, readFrom_beforePart_quote, readFrom_quoted_quote,
      readFrom_closing_empty parts _ _ hrest]
  | unclosed hw =>
    rename_i w c
    rw [readFrom_blank parts hw, readFrom_beforePart_quote, ← List.append_nil (doubleQuotes c),
      readFrom_quoted_body, readFrom_quoted_nil]
  | quoteInBare hw hr hne =>
    obtain ⟨acc, -, hrun⟩ := readFrom_bare_start parts hr hne _ ('"' :: _)
    rw [List.append_assoc, readFrom_blank parts hw, hrun, readFrom_bare_quote,
      utf8ByteSize_ofList_append, Nat.add_assoc]
  | afterQuoted hw hc hw₂ hx hdot hq =>
    rename_i w c w₂ rest x
    -- the closing quote is followed by white space or by `x`, never by a second quote
    have hnext : (w₂ ++ x :: rest).head? ≠ some '"' := by
      intro h
      cases w₂ with
      | nil => exact hq rfl (by simpa using h)
      | cons y w₂ =>
        simp only [List.cons_append, List.head?_cons, Option.some.injEq] at h
        exact absurd (hw₂ y List.mem_cons_self) (by rw [h]; decide)
    rw [readFrom_blank parts hw, readFrom_beforePart_quote, readFrom_quoted_body, List.append_nil,
      readFrom_quoted_quote, readFrom_closing_end parts _ (List.reverse_ne_nil_iff.2 hc) _ hnext,
      List.reverse_reverse, readFrom_afterPart_blank _ hw₂, readFrom_afterPart_cons, stepAfterPart,
      if_neg (by simp [hx]),
      if_neg hdot]
    simp only [utf8ByteSize_ofList_append, utf8ByteSize_ofList_cons, utf8Size_quote]
    congr 2
    omega

end Segments

/-! ## Every text is written or refused -/

/-- A quoted body runs to the end of the text with every double quote doubled, or stops at a
closing quote that no second one follows. -/
theorem quoted_cases : ∀ u : List Char, (∃ c, u = doubleQuotes c) ∨
    ∃ c v, u = doubleQuotes c ++ '"' :: v ∧ v.head? ≠ some '"'
  | [] => .inl ⟨[], rfl⟩
  | x :: u => by
    by_cases hx : x = '"'
    · subst hx
      cases u with
      | nil => exact .inr ⟨[], [], rfl, by simp⟩
      | cons y u =>
        by_cases hy : y = '"'
        · -- a doubled quote: one quote of the content
          subst hy
          rcases quoted_cases u with ⟨c, rfl⟩ | ⟨c, v, rfl, hv⟩
          · exact .inl ⟨'"' :: c, by simp [doubleQuotes_cons]⟩
          · exact .inr ⟨'"' :: c, v, by simp [doubleQuotes_cons], hv⟩
        · exact .inr ⟨[], y :: u, rfl, by simpa using hy⟩
    · rcases quoted_cases u with ⟨c, rfl⟩ | ⟨c, v, rfl, hv⟩
      · exact .inl ⟨x :: c, by simp [doubleQuotes_cons, hx]⟩
      · exact .inr ⟨x :: c, v, by simp [doubleQuotes_cons, hx], hv⟩

/-- A segment that opens with a double quote after white space `w`. -/
theorem quotedSegment_cases (k pos : Nat) {w : List Char} (hw : Blank w) (u : List Char) :
    (∃ seg p rest, Segment seg p ∧ EndsPart rest ∧ w ++ '"' :: u = seg ++ rest) ∨
      ∃ e, BadSegment k pos (w ++ '"' :: u) e := by
  rcases quoted_cases u with ⟨c, rfl⟩ | ⟨c, v, rfl, hv⟩
  · exact .inr ⟨_, .unclosed hw⟩
  by_cases hc : c = []
  · subst hc
    exact .inr ⟨_, .emptyQuoted hw hv⟩
  -- after the closing quote: white space, then the end, a dot, or a character at fault
  have hsplit := List.takeWhile_append_dropWhile (p := Text.isWhiteSpace) (l := v)
  have hw₂ : Blank (v.takeWhile Text.isWhiteSpace) := fun d hd => List.mem_takeWhile_imp hd
  have hfirst := List.head?_dropWhile_not Text.isWhiteSpace v
  generalize v.takeWhile Text.isWhiteSpace = w₂ at hsplit hw₂
  generalize v.dropWhile Text.isWhiteSpace = t at hsplit hfirst
  subst hsplit
  have hseg := Segment.quoted hw hw₂ hc
  match t, hfirst with
  | [], _ => exact .inl ⟨_, c, [], hseg, .inl rfl, by simp⟩
  | '.' :: more, _ => exact .inl ⟨_, c, '.' :: more, hseg, .inr ⟨more, rfl⟩, by simp⟩
  | x :: more, hx =>
    by_cases hdot : x = '.'
    · subst hdot
      exact .inl ⟨_, c, '.' :: more, hseg, .inr ⟨more, rfl⟩, by simp⟩
    · have hq : w₂ = [] → x ≠ '"' := by
        rintro rfl rfl
        exact hv rfl
      exact .inr ⟨_, .afterQuoted hw hc hw₂ (by simpa using hx) hdot hq⟩

/-- A segment that opens with a character of a bare part after white space `w`. -/
theorem bareSegment_cases (k pos : Nat) {w : List Char} (hw : Blank w) {x : Char}
    (hx : Text.isWhiteSpace x = false) (hdot : x ≠ '.') (hquote : x ≠ '"') (u : List Char) :
    (∃ seg p rest, Segment seg p ∧ EndsPart rest ∧ w ++ x :: u = seg ++ rest) ∨
      ∃ e, BadSegment k pos (w ++ x :: u) e := by
  -- the bare run goes on to the first dot or double quote
  let bare : Char → Bool := fun c => c ≠ '.' && c ≠ '"'
  have hsplit := List.takeWhile_append_dropWhile (p := bare) (l := u)
  have hrun : BareRun (x :: u.takeWhile bare) := by
    constructor <;> intro hm <;> rcases List.mem_cons.1 hm with h | h
    · exact hdot h.symm
    · simpa [bare] using List.mem_takeWhile_imp h
    · exact hquote h.symm
    · simpa [bare] using List.mem_takeWhile_imp h
  have hstop := List.head?_dropWhile_not bare u
  generalize u.takeWhile bare = r at hsplit hrun
  generalize u.dropWhile bare = t at hsplit hstop
  subst hsplit
  have hne : Text.trim (x :: r) ≠ [] := Text.trim_ne_nil hx
  have hbare : BareRun (w ++ x :: r) :=
    ⟨by simp [hw.not_mem.1, hrun.1], by simp [hw.not_mem.2, hrun.2]⟩
  have hseg := Segment.bare hbare (by rwa [trim_blank_append hw])
  match t, hstop with
  | [], _ => exact .inl ⟨_, _, [], hseg, .inl rfl, by simp⟩
  | y :: more, hy =>
    have hy' : y = '.' ∨ y = '"' := by simpa [bare, or_iff_not_imp_left] using hy
    rcases hy' with rfl | rfl
    · exact .inl ⟨_, _, '.' :: more, hseg, .inr ⟨more, rfl⟩, by simp⟩
    · have hbad : BadSegment k pos (w ++ (x :: r) ++ '"' :: more) _ := .quoteInBare hw hrun hne
      rw [List.append_assoc, List.cons_append] at hbad
      exact .inr ⟨_, hbad⟩

/-- **The first segment.** Every text starts with a segment followed by the end or a dot, or
with a segment that goes wrong. -/
theorem segment_cases (k pos : Nat) (cs : List Char) :
    (∃ seg p rest, Segment seg p ∧ EndsPart rest ∧ cs = seg ++ rest) ∨
      ∃ e, BadSegment k pos cs e := by
  have hsplit := List.takeWhile_append_dropWhile (p := Text.isWhiteSpace) (l := cs)
  have hw : Blank (cs.takeWhile Text.isWhiteSpace) := fun d hd => List.mem_takeWhile_imp hd
  have hfirst := List.head?_dropWhile_not Text.isWhiteSpace cs
  generalize cs.takeWhile Text.isWhiteSpace = w at hsplit hw
  generalize cs.dropWhile Text.isWhiteSpace = t at hsplit hfirst
  subst hsplit
  match t, hfirst with
  | [], _ => exact .inr ⟨_, by rw [List.append_nil]; exact .blank hw⟩
  | x :: u, hx =>
    by_cases hdot : x = '.'
    · subst hdot
      exact .inr ⟨_, .blankDot hw⟩
    by_cases hquote : x = '"'
    · subst hquote
      rcases quotedSegment_cases k pos hw u with ⟨seg, p, rest, hseg, hrest, he⟩ | hbad
      · exact .inl ⟨seg, p, rest, hseg, hrest, he⟩
      · exact .inr hbad
    exact bareSegment_cases k pos hw (by simpa using hx) hdot hquote u

/-- **Every text is written or refused**, from any offset and any number of parts before. -/
theorem written_or_refused (cs : List Char) (k pos : Nat) :
    (∃ ps, Written cs ps) ∨ ∃ e, Refused k pos cs e := by
  rcases segment_cases k pos cs with ⟨seg, p, rest, hseg, hrest, hcs⟩ | ⟨e, hbad⟩
  · rcases hrest with hend | ⟨more, hmore⟩
    · exact .inl ⟨[p], by simpa [hcs, hend] using Written.last hseg⟩
    · -- a dot: the rest is read as a text of its own, one part later
      rw [hcs, hmore]
      rcases written_or_refused more (k + 1) (pos + (String.ofList seg).utf8ByteSize + 1) with
        ⟨ps, hps⟩ | ⟨e, he⟩
      · exact .inl ⟨p :: ps, .cons hseg hps⟩
      · exact .inr ⟨e, .next hseg he⟩
  · exact .inr ⟨e, .here hbad⟩
termination_by cs.length
decreasing_by
  rw [hcs, hmore, List.length_append, List.length_cons]
  omega

/-! ## Whole texts -/

/-- A written name reads as its parts, after the parts read before. -/
theorem readFrom_written {cs : List Char} {ps : List (List Char)} (h : Written cs ps)
    (parts : List String) (pos : Nat) :
    readFrom .beforePart parts pos cs = .ok (parts ++ ps.map String.ofList) := by
  induction h generalizing parts pos with
  | last hseg =>
    have hread := readFrom_segment parts hseg pos (.inl rfl)
    rw [List.append_nil] at hread
    rw [hread, readFrom_afterPart_nil, List.map_singleton]
  | cons hseg _ ih =>
    rw [readFrom_segment parts hseg pos (.inr ⟨_, rfl⟩), readFrom_afterPart_dot, ih,
      List.map_cons, List.append_assoc, List.singleton_append]

/-- A refused text is refused with its error. -/
theorem readFrom_refused {k pos : Nat} {cs : List Char} {e : NameError} (h : Refused k pos cs e)
    (parts : List String) (hk : parts.length = k) : readFrom .beforePart parts pos cs = .error e := by
  induction h generalizing parts with
  | here hbad =>
    subst hk
    exact readFrom_badSegment parts hbad
  | next hseg _ ih =>
    rw [readFrom_segment parts hseg _ (.inr ⟨_, rfl⟩), readFrom_afterPart_dot,
      ih _ (by rw [List.length_append, hk, List.length_singleton])]

/-- A segment stands for a part that is not empty. -/
theorem Segment.part_ne_nil {seg p : List Char} (h : Segment seg p) : p ≠ [] := by
  cases h with
  | bare _ hne => exact hne
  | quoted _ _ hc => exact hc

/-- A segment is not white space only. -/
theorem Segment.not_blank {seg p : List Char} (h : Segment seg p) : ¬ Blank seg := by
  cases h with
  | bare _ hne => exact fun hb => hne ((trim_eq_nil_iff _).2 hb)
  | quoted _ _ _ => exact fun hb => absurd (hb '"' (by simp)) (by decide)

/-- A written name is not white space only, and stands for a non-empty list of non-empty
parts. -/
theorem Written.shape {cs : List Char} {ps : List (List Char)} (h : Written cs ps) :
    ¬ Blank cs ∧ ps ≠ [] ∧ ∀ p ∈ ps, p ≠ [] := by
  induction h with
  | last hseg => exact ⟨hseg.not_blank, by simp, by simpa using hseg.part_ne_nil⟩
  | cons hseg _ ih =>
    refine ⟨fun hb => hseg.not_blank fun c hc => hb c (by simp [hc]), by simp, ?_⟩
    intro p hp
    rcases List.mem_cons.1 hp with rfl | hp
    · exact hseg.part_ne_nil
    · exact ih.2.2 p hp

/-- A text that is blank is refused as empty. -/
theorem parse_of_blank {s : String} (h : Blank s.toList) : parse s = .error .empty := by
  rw [parse, if_pos (by simpa using (trim_eq_nil_iff _).2 h)]

/-- A written name is read as the name of its parts. -/
theorem parse_of_written {s : String} {ps : List (List Char)} (h : Written s.toList ps) :
    ∃ n : Name, parse s = .ok n ∧ n.parts.map String.toList = ps := by
  obtain ⟨hblank, hne, hparts⟩ := h.shape
  let n : Name := ⟨ps.map String.ofList, by simpa using hne, fun q hq => by
    obtain ⟨p, hp, rfl⟩ := List.mem_map.1 hq
    simpa using hparts p hp⟩
  refine ⟨n, ?_, by simp [n, Function.comp_def]⟩
  rw [parse, if_neg (by simpa using mt (trim_eq_nil_iff _).1 hblank), readFrom_written h,
    List.nil_append]
  exact new_parts n

/-- A refused text that is not blank is refused with the error of its first fault. -/
theorem parse_of_refused {s : String} {e : NameError} (hblank : ¬ Blank s.toList)
    (h : Refused 0 0 s.toList e) : parse s = .error e := by
  rw [parse, if_neg (by simpa using mt (trim_eq_nil_iff _).1 hblank), readFrom_refused h [] rfl]

/-- **The grammar of names.** For every text `s`: `parse s` is a name `n` exactly when `s` is a
written name whose parts are `n`'s: segments separated by dots, each a bare run trimmed to a
non-empty part or a non-empty quoted part with doubled double quotes between white space.
`parse s` is the error `e` exactly when `s` is blank and `e` is `empty`, or `s` is not blank and
is refused with `e` at its first segment that goes wrong, counting the parts before it and the
bytes before the character at fault. -/
theorem parse_eq_iff_written_refused (s : String) :
    (∀ n, parse s = .ok n ↔ Written s.toList (n.parts.map String.toList)) ∧
      ∀ e, parse s = .error e ↔
        (Blank s.toList ∧ e = .empty) ∨ (¬ Blank s.toList ∧ Refused 0 0 s.toList e) := by
  by_cases hblank : Blank s.toList
  · have hparse := parse_of_blank hblank
    refine ⟨fun n => ⟨fun h => ?_, fun h => absurd hblank h.shape.1⟩, fun e => ?_⟩
    · rw [hparse] at h
      cases h
    · rw [hparse]
      simp [hblank, eq_comm]
  rcases written_or_refused s.toList 0 0 with ⟨ps, hps⟩ | ⟨e₀, he₀⟩
  · obtain ⟨n₀, hparse, hparts⟩ := parse_of_written hps
    refine ⟨fun n => ⟨fun h => ?_, fun h => ?_⟩, fun e => ?_⟩
    · rw [hparse, Except.ok.injEq] at h
      rwa [← h, hparts]
    · -- the parts written determine the name read
      obtain ⟨n₁, hparse₁, hparts₁⟩ := parse_of_written h
      rw [hparse₁, Except.ok.injEq]
      ext1
      have := congrArg (List.map String.ofList) hparts₁
      simpa [Function.comp_def] using this
    · rw [hparse]
      refine ⟨(fun h => by cases h), ?_⟩
      rintro (⟨hb, -⟩ | ⟨-, he⟩)
      · exact absurd hb hblank
      · rw [parse_of_refused hblank he] at hparse
        cases hparse
  · have hparse := parse_of_refused hblank he₀
    refine ⟨fun n => ⟨fun h => ?_, fun h => ?_⟩, fun e => ?_⟩
    · rw [hparse] at h
      cases h
    · obtain ⟨n₁, hparse₁, -⟩ := parse_of_written h
      rw [hparse₁] at hparse
      cases hparse
    · rw [hparse, Except.error.injEq]
      refine ⟨fun h => .inr ⟨hblank, h ▸ he₀⟩, ?_⟩
      rintro (⟨hb, -⟩ | ⟨-, he⟩)
      · exact absurd hb hblank
      · rw [parse_of_refused hblank he, Except.error.injEq] at hparse
        exact hparse.symm

end Name

end RecordSchema
