import Mathlib.Tactic.SplitIfs
import RecordSchema.Json.Read
import RecordSchema.Json.Write
/-!
# Written JSON strings and string arrays read back

The compact JSON writer and the readers undo each other on the values a schema definition is
written with: strings, and arrays of strings. The readers take a cursor; each lemma here says
what a reader gives on a cursor whose unread text starts with a written form, whatever text
follows it, and where the cursor is left.

* `Json.Cursor.skipBlanks_of_head` — compact written text has no white space to skip;
* `Json.readString_escaped` — a string written with its escapes reads back, the cursor left
  after its closing quote;
* `Json.readValue_strings` — a written array of strings reads back as that array.
-/

namespace RecordSchema

namespace Json

namespace Cursor

@[simp] theorem advance_rest (c : Cursor) : c.advance.rest = c.rest.tail := by
  unfold advance
  split
  · rename_i h
    rw [h]
    rfl
  · rename_i ch rest h
    rw [h]
    split <;> rfl

/-- Skipping white space keeps a cursor that is not at white space. -/
theorem skipBlanksFor_of_head (fuel : Nat) {c : Cursor}
    (h : ∀ ch ∈ c.rest.head?, isBlank ch = false) : skipBlanksFor fuel c = c := by
  cases fuel with
  | zero => rfl
  | succ fuel =>
    unfold skipBlanksFor
    split
    · rename_i ch rest hrest
      rw [hrest] at h
      simp [h ch rfl]
    · rfl

/-- Skipping white space keeps a cursor that is not at white space. -/
theorem skipBlanks_of_head {c : Cursor} (h : ∀ ch ∈ c.rest.head?, isBlank ch = false) :
    c.skipBlanks = c :=
  skipBlanksFor_of_head _ h

/-- Skipping white space keeps a cursor at a character that is not white space. -/
theorem skipBlanks_of_cons {c : Cursor} {ch : Char} {tail : List Char} (hc : c.rest = ch :: tail)
    (hch : isBlank ch = false) : c.skipBlanks = c :=
  skipBlanks_of_head (by rw [hc]; simpa using hch)

/-- Every character left takes at least one byte. -/
theorem length_le_bytesLeft (c : Cursor) : c.rest.length ≤ c.bytesLeft := by
  have hfold : ∀ (l : List Char) (n : Nat),
      n + l.length ≤ l.foldl (fun n ch => n + ch.utf8Size) n := by
    intro l
    induction l with
    | nil => simp
    | cons ch l ih =>
      intro n
      have hstep := ih (n + ch.utf8Size)
      have hpos := ch.utf8Size_pos
      simp only [List.foldl_cons, List.length_cons]
      omega
  rw [bytesLeft]
  simpa using hfold c.rest 0

end Cursor

/-! ## Strings -/

/-- Each hexadecimal digit written reads back as its value. -/
theorem hexValue?_hexDigit : ∀ n < 16, hexValue? (hexDigit n) = some n := by
  decide

/-- A control character written as `\u00XY` reads back. -/
theorem readUnicodeEscape_control {c : Cursor} {x : Char} (hx : x.toNat < 32) {more : List Char}
    (hc : c.rest = '0' :: '0' :: hexDigit (x.toNat / 16) :: hexDigit (x.toNat % 16) :: more) :
    ∃ c', readUnicodeEscape c = .ok (x, c') ∧ c'.rest = more := by
  have hbytes : ¬c.bytesLeft < 4 := by
    have hlen := Cursor.length_le_bytesLeft c
    rw [hc] at hlen
    simp only [List.length_cons] at hlen
    omega
  have hhigh := hexValue?_hexDigit (x.toNat / 16) (by omega)
  have hlow := hexValue?_hexDigit (x.toNat % 16) (by omega)
  have hzero : hexValue? '0' = some 0 := by decide
  -- the four digits give back the code of the character
  have hcode : ((0 * 16 + 0) * 16 + x.toNat / 16) * 16 + x.toNat % 16 = x.toNat := by omega
  unfold readUnicodeEscape readHex4
  rw [if_neg hbytes, hc]
  simp only [hzero, hhigh, hlow, hcode]
  refine ⟨c.advance.advance.advance.advance, ?_, by simp [hc]⟩
  rw [if_neg (by simp; omega), if_pos (by simp; omega), Char.ofNat_toNat]

/-- Every character is written as at least one character. -/
theorem length_escapeChar_pos (x : Char) : 0 < (escapeChar x).length := by
  unfold escapeChar
  split_ifs <;> simp

/-- After a backslash, an escape is read and its character added. -/
theorem readStringChars_backslash {c : Cursor} {tail : List Char} (hc : c.rest = '\\' :: tail)
    {e : Char} {c' : Cursor} (he : readEscape c.advance = .ok (e, c')) (fuel : Nat)
    (acc : List Char) : readStringChars (fuel + 1) acc c = readStringChars fuel (e :: acc) c' := by
  rw [readStringChars, hc]
  simp [he]

/-- A character written as a backslash and one more character is read back from the two. -/
theorem readStringChars_shortEscape {c : Cursor} {x e : Char} {more : List Char}
    (hc : c.rest = '\\' :: e :: more)
    (he : ∀ c₀ : Cursor, c₀.rest = e :: more → readEscape c₀ = .ok (x, c₀.advance))
    (fuel : Nat) (acc : List Char) :
    ∃ c', c'.rest = more ∧
      readStringChars (fuel + 1) acc c = readStringChars fuel (x :: acc) c' :=
  ⟨c.advance.advance, by simp [hc],
    readStringChars_backslash hc (he c.advance (by simp [hc])) fuel acc⟩

/-- One written character, escaped or not, is read and added to the characters so far. -/
theorem readStringChars_escapeChar {c : Cursor} (x : Char) {more : List Char}
    (hc : c.rest = escapeChar x ++ more) (fuel : Nat) (acc : List Char) :
    ∃ c', c'.rest = more ∧
      readStringChars (fuel + 1) acc c = readStringChars fuel (x :: acc) c' := by
  unfold escapeChar at hc
  split_ifs at hc with hquote hback hnl hcr htab hbs hff hctl
  -- a quote, a backslash, a line feed, a carriage return and a tab are written by a letter
  any_goals
    subst x
    exact readStringChars_shortEscape hc (fun c₀ h₀ => by simp [readEscape, h₀]) fuel acc
  · -- so are backspace and form feed
    have hx : x = Char.ofNat 8 := by rw [← hbs, Char.ofNat_toNat]
    subst hx
    exact readStringChars_shortEscape hc (fun c₀ h₀ => by simp [readEscape, h₀]) fuel acc
  · have hx : x = Char.ofNat 12 := by rw [← hff, Char.ofNat_toNat]
    subst hx
    exact readStringChars_shortEscape hc (fun c₀ h₀ => by simp [readEscape, h₀]) fuel acc
  · -- another control character, written as `\u00XY`
    have hdigits : c.advance.advance.rest =
        '0' :: '0' :: hexDigit (x.toNat / 16) :: hexDigit (x.toNat % 16) :: more := by
      simp [hc]
    obtain ⟨c', hu, hrest⟩ := readUnicodeEscape_control hctl hdigits
    exact ⟨c', hrest, readStringChars_backslash hc (by simp [readEscape, hc, hu]) fuel acc⟩
  · -- any other character stands for itself
    refine ⟨c.advance, by simp [hc], ?_⟩
    rw [readStringChars, hc]
    simp [hquote, hback, hctl]

/-- **Written strings read back.** The characters of a string, each written with its escape,
then a closing quote, read back as the string; the cursor is left after the quote. -/
theorem readStringChars_escaped :
    ∀ (cs : List Char) (fuel : Nat) (acc : List Char) {c : Cursor} {rest : List Char},
      c.rest = cs.flatMap escapeChar ++ '"' :: rest → cs.length < fuel →
      ∃ c', readStringChars fuel acc c = .ok (String.ofList (acc.reverse ++ cs), c') ∧
        c'.rest = rest
  | [], fuel + 1, acc, c, rest, hc, _ => by
    rw [readStringChars, List.flatMap_nil, List.nil_append] at *
    rw [hc]
    refine ⟨c.advance, by simp, by simp [hc]⟩
  | x :: cs, fuel + 1, acc, c, rest, hc, hfuel => by
    rw [List.flatMap_cons, List.append_assoc] at hc
    obtain ⟨c', hc', hstep⟩ := readStringChars_escapeChar x hc fuel acc
    obtain ⟨c'', hread, hrest⟩ :=
      readStringChars_escaped cs fuel (x :: acc) hc' (by simpa using hfuel)
    refine ⟨c'', ?_, hrest⟩
    rw [hstep, hread]
    simp

/-- A written string reads back, the cursor left after its closing quote. -/
theorem readString_escaped {c : Cursor} {s : String} {rest : List Char}
    (hc : c.rest = s.toList.flatMap escapeChar ++ '"' :: rest) :
    ∃ c', readString c = .ok (s, c') ∧ c'.rest = rest := by
  have hlen : ∀ cs : List Char, cs.length ≤ (cs.flatMap escapeChar).length := by
    intro cs
    induction cs with
    | nil => simp
    | cons x cs ih =>
      have hx := length_escapeChar_pos x
      simp only [List.flatMap_cons, List.length_append, List.length_cons]
      omega
  obtain ⟨c', hread, hrest⟩ := readStringChars_escaped s.toList (c.rest.length + 1) [] hc
    (by have := hlen s.toList; rw [hc, List.length_append]; omega)
  refine ⟨c', ?_, hrest⟩
  rw [readString, hread]
  simp

/-- A quoted string is its escaped characters between two quotes. -/
theorem toList_quote (s : String) :
    (quote s).toList = '"' :: (s.toList.flatMap escapeChar ++ ['"']) := by
  simp [quote]

/-- A written string reads as a JSON string value. -/
theorem readValue_string {c : Cursor} {s : String} {rest : List Char}
    (hc : c.rest = (quote s).toList ++ rest) (fuel depth : Nat) :
    ∃ c', readValue (fuel + 1) depth c = .ok (.string s, c') ∧ c'.rest = rest := by
  rw [toList_quote, List.cons_append, List.append_assoc, List.singleton_append] at hc
  have hchars : c.advance.rest = s.toList.flatMap escapeChar ++ '"' :: rest := by simp [hc]
  obtain ⟨c', hread, hrest⟩ := readString_escaped hchars
  refine ⟨c', ?_, hrest⟩
  rw [readValue, Cursor.skipBlanks_of_cons hc (by decide), hc]
  simp [hread, Except.map]

/-! ## Arrays of strings -/

/-- The written items of an array of strings: the first string, then each further one after a
comma. -/
theorem writeItems_strings (s : String) (ss : List String) :
    (writeItems ((s :: ss).map .string)).toList =
      (quote s).toList ++ ss.flatMap fun s => ',' :: (quote s).toList := by
  induction ss generalizing s with
  | nil => simp [writeItems, write]
  | cons s' ss ih =>
    have hstep : writeItems ((s :: s' :: ss).map .string) =
        write (.string s) ++ "," ++ writeItems ((s' :: ss).map .string) := by
      rw [List.map_cons, writeItems]
      simp
    rw [hstep, String.toList_append, String.toList_append, ih]
    simp [write]

/-- The strings of an array after the first, each after a comma, read back, and so does the
closing bracket. -/
theorem readItems_strings : ∀ (ss : List String) (fuel depth : Nat) (acc : List Json) {c : Cursor}
    {rest : List Char}, c.rest = (ss.flatMap fun s => ',' :: (quote s).toList) ++ ']' :: rest →
    2 * ss.length < fuel →
    ∃ c', readItems fuel depth false acc c = .ok (.array (acc.reverse ++ ss.map .string), c') ∧
      c'.rest = rest
  | [], fuel + 1, depth, acc, c, rest, hc, _ => by
    rw [List.flatMap_nil, List.nil_append] at hc
    refine ⟨c.advance, ?_, by simp [hc]⟩
    rw [readItems, Cursor.skipBlanks_of_cons hc (by decide), hc]
    simp
  | s :: ss, fuel + 2, depth, acc, c, rest, hc, hfuel => by
    simp only [List.flatMap_cons, List.cons_append, List.append_assoc] at hc
    have hnext : c.advance.rest = (quote s).toList ++
        ((ss.flatMap fun s => ',' :: (quote s).toList) ++ ']' :: rest) := by
      simp [hc]
    obtain ⟨tail, htail⟩ : ∃ tail, c.advance.rest = '"' :: tail :=
      ⟨_, by rw [hnext, toList_quote]; rfl⟩
    obtain ⟨c', hvalue, hrest'⟩ := readValue_string hnext fuel depth
    obtain ⟨c'', hitems, hrest''⟩ :=
      readItems_strings ss (fuel + 1) depth (.string s :: acc) hrest' (by simp at hfuel; omega)
    refine ⟨c'', ?_, hrest''⟩
    rw [readItems, Cursor.skipBlanks_of_cons hc (by decide), hc]
    simp only
    rw [if_neg (by decide), if_neg Bool.false_ne_true, if_pos trivial,
      Cursor.skipBlanks_of_cons htail (by decide), htail]
    simp only
    rw [if_neg (by decide), hvalue]
    simp only
    rw [hitems]
    simp

/-- **Written string arrays read back.** A written array of strings reads as that array,
inside fewer than the most arrays and objects allowed; the cursor is left after its bracket. -/
theorem readValue_strings {c : Cursor} {ss : List String} {rest : List Char}
    (hc : c.rest = (write (.array (ss.map .string))).toList ++ rest) {depth : Nat}
    (hdepth : depth < maxDepth) {fuel : Nat} (hfuel : 2 * ss.length + 2 < fuel) :
    ∃ c', readValue fuel depth c = .ok (.array (ss.map .string), c') ∧ c'.rest = rest := by
  obtain ⟨fuel, rfl⟩ : ∃ f, fuel = f + 2 := ⟨fuel - 2, by omega⟩
  rw [write, String.toList_append, String.toList_append] at hc
  simp only [show "[".toList = ['['] from rfl, show "]".toList = [']'] from rfl,
    List.cons_append, List.nil_append, List.append_assoc] at hc
  have hopen :
      readValue (fuel + 2) depth c = readItems (fuel + 1) (depth + 1) true [] c.advance := by
    rw [readValue, Cursor.skipBlanks_of_cons hc (by decide), hc]
    simp [Nat.not_le.2 hdepth]
  rw [hopen]
  cases ss with
  | nil =>
    have hclose : c.advance.rest = ']' :: rest := by simp [hc, writeItems]
    refine ⟨c.advance.advance, ?_, by rw [Cursor.advance_rest, hclose, List.tail_cons]⟩
    rw [readItems, Cursor.skipBlanks_of_cons hclose (by decide), hclose]
    simp
  | cons s ss =>
    rw [writeItems_strings] at hc
    have hnext : c.advance.rest = (quote s).toList ++
        ((ss.flatMap fun s => ',' :: (quote s).toList) ++ ']' :: rest) := by
      simp [hc]
    obtain ⟨tail, htail⟩ : ∃ tail, c.advance.rest = '"' :: tail :=
      ⟨_, by rw [hnext, toList_quote]; rfl⟩
    obtain ⟨fuel, rfl⟩ : ∃ f, fuel = f + 1 := ⟨fuel - 1, by simp at hfuel; omega⟩
    obtain ⟨c', hvalue, hrest'⟩ := readValue_string hnext fuel (depth + 1)
    obtain ⟨c'', hitems, hrest''⟩ :=
      readItems_strings ss (fuel + 1) (depth + 1) [.string s] hrest' (by simp at hfuel; omega)
    refine ⟨c'', ?_, hrest''⟩
    rw [readItems, Cursor.skipBlanks_of_cons htail (by decide), htail]
    simp only
    rw [if_neg (by decide), if_pos trivial, hvalue]
    simp only
    rw [hitems]
    simp

/-! ## Items and entries -/

/-- The written items of an array: the first item, then the others after a comma. -/
theorem writeItems_cons (j : Json) (js : List Json) :
    (writeItems (j :: js)).toList =
      (write j).toList ++ if js = [] then [] else ',' :: (writeItems js).toList := by
  cases js with
  | nil => simp [writeItems]
  | cons j' js => simp [writeItems]

/-- An array of `n` items is written with at least `n - 1` commas. -/
theorem length_le_writeItems : ∀ js : List Json, js.length ≤ (writeItems js).toList.length + 1
  | [] => by simp
  | j :: js => by
    have ih := length_le_writeItems js
    rw [writeItems_cons]
    split_ifs with hjs
    · simp [hjs]
    · simp only [List.length_cons, List.length_append]
      omega

/-- The characters of a written object entry: the quoted key, a colon and the written value. -/
def entryText (e : String × Json) : List Char := (quote e.1).toList ++ ':' :: (write e.2).toList

/-- The written entries of an object: the first entry, then the others after a comma. -/
theorem writeEntries_cons (e : String × Json) (es : List (String × Json)) :
    (writeEntries (e :: es)).toList =
      entryText e ++ if es = [] then [] else ',' :: (writeEntries es).toList := by
  obtain ⟨k, j⟩ := e
  cases es with
  | nil => simp [writeEntries, entryText]
  | cons e' es => simp [writeEntries, entryText]

/-- Every written entry takes at least one character. -/
theorem length_le_writeEntries : ∀ es : List (String × Json),
    es.length ≤ (writeEntries es).toList.length
  | [] => by simp
  | e :: es => by
    have ih := length_le_writeEntries es
    have hentry : 0 < (entryText e).length := by
      simp only [entryText, List.length_append, List.length_cons]
      omega
    rw [writeEntries_cons]
    split_ifs with hes
    · simp [hes]
      omega
    · simp only [List.length_cons, List.length_append]
      omega

end Json

end RecordSchema
