import RecordSchema.Name.Display
import RecordSchema.Name.Parse
import RecordSchema.Definition.OfValue
import RecordSchema.Definition.Write
import RecordSchema.Proofs.Words
/-!
# Names read back from their written form

A name is written with its parts joined by dots, a part quoted, with its double quotes doubled,
when it holds a dot or a double quote or starts or ends with white space. This file proves that
the reader of names undoes the writer exactly, for every name, and that the JSON form of a name,
the array of its parts, reads back too:

* `Name.readFrom_bare_run`, `Name.readFrom_quoted_body` — the reader runs through a bare
  part, and through the doubled quotes of a quoted one, one character at a time, the offset
  moving by the bytes read;
* `Name.readFrom_bare_end`, `Name.readFrom_closing_end` — a part ends at the end of the text or
  at what follows it, with the part added;
* `Name.readFrom_writePart` — a written part, followed by the end or a dot, leaves the reader
  after the part with the part added;
* `Name.readFrom_intercalate` — the written parts joined by dots read back as the parts;
* `Name.parse_display` — `Name.parse n.display = .ok n`, and `Name.ofJson n.toJson = .ok n`.
-/

namespace RecordSchema

namespace Name

/-- After a part, the end of the text or a dot: what may follow a part in a written name. -/
def EndsPart (rest : List Char) : Prop := rest = [] ∨ ∃ more, rest = '.' :: more

/-- What may follow a part never starts with a double quote. -/
theorem EndsPart.head?_ne_quote {rest : List Char} (h : EndsPart rest) : rest.head? ≠ some '"' := by
  rcases h with rfl | ⟨more, rfl⟩ <;> simp

/-! ## Sizes -/

@[simp] theorem utf8ByteSize_ofList_cons (c : Char) (cs : List Char) :
    (String.ofList (c :: cs)).utf8ByteSize = c.utf8Size + (String.ofList cs).utf8ByteSize := by
  rw [String.ofList_cons]
  simp [String.utf8ByteSize_append, String.utf8ByteSize_singleton]

@[simp] theorem utf8ByteSize_ofList_append (a b : List Char) :
    (String.ofList (a ++ b)).utf8ByteSize =
      (String.ofList a).utf8ByteSize + (String.ofList b).utf8ByteSize := by
  simp [String.ofList_append, String.utf8ByteSize_append]

@[simp] theorem utf8Size_quote : '"'.utf8Size = 1 := by decide

/-! ## Runs through a part -/

/-- The quoted content of a part: every double quote doubled. -/
def doubleQuotes (cs : List Char) : List Char :=
  cs.flatMap fun c => if c = '"' then ['"', '"'] else [c]

theorem quotePart_eq (cs : List Char) : quotePart cs = '"' :: (doubleQuotes cs ++ ['"']) := rfl

theorem doubleQuotes_cons (x : Char) (c : List Char) :
    doubleQuotes (x :: c) = (if x = '"' then ['"', '"'] else [x]) ++ doubleQuotes c := by
  rw [doubleQuotes, List.flatMap_cons]
  rfl


/-- A bare part reads through a run without dots and double quotes, keeping it, last first. -/
theorem readFrom_bare_run (parts : List String) {r : List Char} (hr : '.' ∉ r ∧ '"' ∉ r)
    (acc : List Char) (pos : Nat) (cs : List Char) :
    readFrom (.bare acc) parts pos (r ++ cs) =
      readFrom (.bare (r.reverse ++ acc)) parts (pos + (String.ofList r).utf8ByteSize) cs := by
  induction r generalizing acc pos with
  | nil => simp
  | cons c r ih =>
    have hdot : c ≠ '.' := fun h => hr.1 (h ▸ List.mem_cons_self)
    have hquote : c ≠ '"' := fun h => hr.2 (h ▸ List.mem_cons_self)
    have hr' : '.' ∉ r ∧ '"' ∉ r :=
      ⟨fun h => hr.1 (List.mem_cons_of_mem c h), fun h => hr.2 (List.mem_cons_of_mem c h)⟩
    rw [List.cons_append, readFrom_bare_cons parts pos _ acc hdot hquote, ih hr',
      utf8ByteSize_ofList_cons, List.reverse_cons, List.append_assoc, List.singleton_append,
      Nat.add_assoc]

/-- A quoted part reads through a content with doubled double quotes, keeping each character
once, last first. -/
theorem readFrom_quoted_body (parts : List String) (start : Nat) (c acc : List Char) (pos : Nat)
    (cs : List Char) :
    readFrom (.quoted start acc) parts pos (doubleQuotes c ++ cs) =
      readFrom (.quoted start (c.reverse ++ acc)) parts
        (pos + (String.ofList (doubleQuotes c)).utf8ByteSize) cs := by
  induction c generalizing acc pos with
  | nil => simp [doubleQuotes]
  | cons x c ih =>
    rw [doubleQuotes_cons, List.append_assoc, List.reverse_cons, List.append_assoc,
      List.singleton_append]
    by_cases hx : x = '"'
    · -- a doubled quote closes the part for a moment and the second reopens it
      subst hx
      rw [if_pos rfl, List.cons_append, List.cons_append, List.nil_append, readFrom_quoted_quote,
        readFrom_closing_quote, ih]
      simp only [utf8ByteSize_ofList_append, utf8ByteSize_ofList_cons, utf8Size_quote]
      congr 1
      simp
      omega
    · rw [if_neg hx, List.singleton_append, List.cons_append, readFrom_quoted_cons parts pos _ start acc hx,
        ih]
      simp only [utf8ByteSize_ofList_append, utf8ByteSize_ofList_cons]
      congr 1
      simp
      omega

/-- A bare part that is not all white space ends at the end of the text or at a dot, with its
trimmed text added, as after a part. -/
theorem readFrom_bare_end (parts : List String) (acc : List Char) (hne : Text.trim acc.reverse ≠ [])
    (pos : Nat) {rest : List Char} (hrest : EndsPart rest) :
    readFrom (.bare acc) parts pos rest =
      readFrom .afterPart (parts ++ [String.ofList (Text.trim acc.reverse)]) pos rest := by
  rcases hrest with rfl | ⟨more, rfl⟩
  · rw [readFrom_bare_nil, readFrom_afterPart_nil, pushPart_ok parts hne]
  · rw [readFrom_bare_dot, pushPart_ok parts hne, readFrom_afterPart_dot]

/-- A closed quoted part with content, not followed by a double quote, is added, and the text
is read on as after a part. -/
theorem readFrom_closing_end (parts : List String) (start : Nat) {acc : List Char} (hne : acc ≠ [])
    (pos : Nat) {rest : List Char} (hrest : rest.head? ≠ some '"') :
    readFrom (.closing start acc) parts pos rest =
      readFrom .afterPart (parts ++ [String.ofList acc.reverse]) pos rest := by
  have hpush := pushPart_ok parts (List.reverse_ne_nil_iff.2 hne)
  cases rest with
  | nil => rw [readFrom_closing_nil, readFrom_afterPart_nil, hpush]
  | cons x rest =>
    have hx : x ≠ '"' := fun h => hrest (by rw [h]; rfl)
    rw [readFrom_closing_cons parts pos rest start acc hx, readFrom_afterPart_cons, hpush]
    cases stepAfterPart x pos <;> rfl

/-! ## One written part -/

/-- A part that needs no quotes holds no dot and no double quote, and neither starts nor ends
with white space. -/
theorem not_needsQuotes {cs : List Char} (h : needsQuotes cs = false) :
    (∀ c ∈ cs, c ≠ '.' ∧ c ≠ '"') ∧ (∀ c ∈ cs.head?, Text.isWhiteSpace c = false) ∧
      ∀ c ∈ cs.getLast?, Text.isWhiteSpace c = false := by
  simp only [needsQuotes, Bool.or_eq_false_iff, List.any_eq_false, Bool.or_eq_true,
    beq_iff_eq, not_or] at h
  obtain ⟨⟨hchars, hhead⟩, hlast⟩ := h
  refine ⟨hchars, fun c hc => ?_, fun c hc => ?_⟩
  · rw [Option.mem_def] at hc
    simpa [hc] using hhead
  · rw [Option.mem_def] at hc
    simpa [hc] using hlast

/-- **One part.** A written part, followed by the end of the text or a dot, takes the reader
from before the part to after it, with the part added. -/
theorem readFrom_writePart (parts : List String) (p : String) (hp : p ≠ "") (pos : Nat)
    {rest : List Char} (hrest : EndsPart rest) :
    ∃ pos', readFrom .beforePart parts pos ((writePart p).toList ++ rest) =
      readFrom .afterPart (parts ++ [p]) pos' rest := by
  have hne : p.toList ≠ [] := by simpa using hp
  by_cases hq : needsQuotes p.toList
  · -- quoted: open, read the content, close, then the end or a dot
    rw [writePart, if_pos hq, String.toList_ofList, quotePart_eq, List.cons_append,
      List.append_assoc, List.singleton_append, readFrom_beforePart_quote, readFrom_quoted_body,
      List.append_nil, readFrom_quoted_quote,
      readFrom_closing_end parts pos (List.reverse_ne_nil_iff.2 hne) _ hrest.head?_ne_quote,
      List.reverse_reverse, String.ofList_toList]
    exact ⟨_, rfl⟩
  · -- bare: the first character opens the part, the others follow, and nothing is trimmed
    obtain ⟨hchars, hhead, hlast⟩ := not_needsQuotes (Bool.eq_false_iff.2 hq)
    have htrim := Text.trim_eq_self hhead hlast
    rw [writePart, if_neg hq]
    obtain ⟨c, cs, hcs⟩ := List.exists_cons_of_ne_nil hne
    obtain ⟨hdot, hquote⟩ := hchars c (by simp [hcs])
    have hrun : '.' ∉ cs ∧ '"' ∉ cs :=
      ⟨fun h => (hchars '.' (by simp [hcs, h])).1 rfl, fun h => (hchars '"' (by simp [hcs, h])).2 rfl⟩
    -- the part read, last first, is the written part reversed, and trimming keeps it
    have hacc : (cs.reverse ++ [c]).reverse = p.toList := by simp [hcs]
    rw [hcs, List.cons_append,
      readFrom_beforePart_bare parts pos _ (hhead c (by simp [hcs])) hquote hdot,
      readFrom_bare_run parts hrun,
      readFrom_bare_end parts _ (by rw [hacc, htrim]; exact hne) _ hrest, hacc, htrim,
      String.ofList_toList]
    exact ⟨_, rfl⟩

/-! ## Whole names -/

/-- **The written parts.** Parts written and joined by dots read back as the parts, after those
read before. -/
theorem readFrom_intercalate (ps : List String) (hne : ps ≠ []) (hparts : ∀ p ∈ ps, p ≠ "")
    (parts : List String) (pos : Nat) :
    readFrom .beforePart parts pos (['.'].intercalate (ps.map fun p => (writePart p).toList)) =
      .ok (parts ++ ps) := by
  induction ps generalizing parts pos with
  | nil => exact absurd rfl hne
  | cons p ps ih =>
    cases ps with
    | nil =>
      obtain ⟨pos', hpos'⟩ := readFrom_writePart parts p (hparts p (by simp)) pos (.inl rfl)
      rw [List.append_nil] at hpos'
      rw [List.map_singleton, List.intercalate_singleton, hpos', readFrom_afterPart_nil]
    | cons q qs =>
      -- the first part, then a dot, then the rest of the name
      have htail := ih (by simp) (fun r hr => hparts r (List.mem_cons_of_mem p hr))
      simp only [List.map_cons] at htail
      rw [List.map_cons, List.map_cons, List.intercalate_cons_cons, List.append_assoc,
        List.singleton_append]
      obtain ⟨pos', hpos'⟩ := readFrom_writePart parts p (hparts p (by simp)) pos
        (show EndsPart ('.' :: ['.'].intercalate
          ((writePart q).toList :: qs.map fun p => (writePart p).toList)) from .inr ⟨_, rfl⟩)
      rw [hpos', readFrom_afterPart_dot, htail, List.append_assoc, List.singleton_append]

/-- The written form of a name starts with a character other than white space. -/
theorem display_head (n : Name) :
    ∃ c cs, n.display.toList = c :: cs ∧ Text.isWhiteSpace c = false := by
  obtain ⟨p, ps, hps⟩ := List.exists_cons_of_ne_nil n.parts_ne_nil
  have hp : p.toList ≠ [] := by simpa using n.part_ne_empty p (by simp [hps])
  -- the first part is written first, and it starts with a quote or with its own first letter
  obtain ⟨c, cs, hw, hc⟩ : ∃ c cs, (writePart p).toList = c :: cs ∧ Text.isWhiteSpace c = false := by
    by_cases hq : needsQuotes p.toList
    · exact ⟨'"', _, by rw [writePart, if_pos hq, String.toList_ofList, quotePart_eq], by decide⟩
    · obtain ⟨-, hhead, -⟩ := not_needsQuotes (Bool.eq_false_iff.2 hq)
      obtain ⟨c, cs, hcs⟩ := List.exists_cons_of_ne_nil hp
      exact ⟨c, cs, by rw [writePart, if_neg hq, hcs], hhead c (by simp [hcs])⟩
  -- the rest of the name, if any, comes after the first part
  obtain ⟨tail, htail⟩ : ∃ tail, n.display.toList = (writePart p).toList ++ tail := by
    rw [display, String.toList_intercalate, hps, List.map_map]
    cases ps with
    | nil => exact ⟨[], by simp [Function.comp_def]⟩
    | cons q qs =>
      exact ⟨'.' :: ['.'].intercalate ((q :: qs).map fun x => (writePart x).toList),
        by simp [Function.comp_def]⟩
  exact ⟨c, cs ++ tail, by rw [htail, hw, List.cons_append], hc⟩

/-- The array of a name's parts, read as JSON, is the name. -/
theorem ofJson_toJson (n : Name) : Name.ofJson n.toJson = .ok n := by
  rw [Name.ofJson, toJson, Definition.nameOfJson, Definition.allStrings_map_string]
  simp only [new_parts]
  rfl

/-- **Names read back.** For every name `n`, reading its written form gives `n`: parts are
quoted exactly where a dot, a double quote or white space at an end would otherwise be lost,
quotes inside them are doubled, and the reader undoes both and trims nothing else. Its JSON
form, the array of its parts, also reads back as `n`. -/
theorem parse_display (n : Name) : Name.parse n.display = .ok n ∧ Name.ofJson n.toJson = .ok n := by
  refine ⟨?_, ofJson_toJson n⟩
  obtain ⟨c, cs, hhead, hc⟩ := display_head n
  have hdisplay : n.display.toList = ['.'].intercalate (n.parts.map fun p => (writePart p).toList) := by
    rw [display, String.toList_intercalate, List.map_map]
    rfl
  have hblank : (Text.trim n.display.toList).isEmpty = false := by
    rw [hhead, List.isEmpty_eq_false_iff]
    exact Text.trim_ne_nil hc
  rw [parse, hblank, if_neg Bool.false_ne_true, hdisplay,
    readFrom_intercalate n.parts n.parts_ne_nil n.part_ne_empty, List.nil_append]
  exact new_parts n

end Name

end RecordSchema
