import Mathlib.Data.List.Chain
import Mathlib.Data.List.TakeWhile
import RecordSchema.Text.WhiteSpace
/-!
# Words and single spacing

Data types are read word by word: their text is split at white space, and the words are joined
again by single spaces. This file proves what that splitting and joining do:

* `Text.trim_eq_self`, `Text.trim_ne_nil` — trimming keeps a text that neither starts nor ends
  with white space, and does not empty a text that starts with something else;
* `Text.words_append_blank` — a white-space character splits the words of a text in two;
* `Text.words_intercalate` — words joined by single spaces split back into those words;
* `Text.SingleSpaced` — text whose white space is single spaces between other characters;
  such text is its own words joined by single spaces (`SingleSpaced.intercalate_words`), and it
  stays so under joining (`SingleSpaced.append`, `SingleSpaced.append_space`) and when a prefix
  of it is trimmed (`SingleSpaced.trim_of_append`).
-/

namespace RecordSchema.Text

/-! ## Trimming -/

/-- Dropping a prefix keeps a list whose first element does not pass the test. -/
theorem dropWhile_eq_self {p : Char → Bool} {cs : List Char}
    (h : ∀ c ∈ cs.head?, p c = false) : cs.dropWhile p = cs := by
  cases cs with
  | nil => rfl
  | cons c cs => exact List.dropWhile_cons_of_neg (by simp [h c rfl])

/-- Trimming keeps a list that neither starts nor ends with white space. -/
theorem trim_eq_self {cs : List Char} (hhead : ∀ c ∈ cs.head?, isWhiteSpace c = false)
    (hlast : ∀ c ∈ cs.getLast?, isWhiteSpace c = false) : trim cs = cs := by
  have hrev : ∀ c ∈ cs.reverse.head?, isWhiteSpace c = false := by
    rw [List.head?_reverse]
    exact hlast
  rw [trim, dropWhile_eq_self hhead, dropWhile_eq_self hrev, List.reverse_reverse]

/-- A list that starts with a character other than white space does not trim to nothing. -/
theorem trim_ne_nil {c : Char} {cs : List Char} (hc : isWhiteSpace c = false) :
    trim (c :: cs) ≠ [] := by
  have hkeep : (c :: cs).dropWhile isWhiteSpace = c :: cs := dropWhile_eq_self (by simpa using hc)
  rw [trim, hkeep, Ne, List.reverse_eq_nil_iff, List.dropWhile_eq_nil_iff]
  -- the first character survives at the end of the reversed list
  intro hall
  have := hall c (by simp)
  rw [hc] at this
  exact Bool.false_ne_true this

/-- The first character of a trimmed text is not white space. -/
theorem trim_head {cs : List Char} : ∀ c ∈ (trim cs).head?, isWhiteSpace c = false := by
  intro c hc
  -- the first character kept is the first one left after dropping blanks at the front
  have hsuf : (cs.dropWhile isWhiteSpace).reverse.dropWhile isWhiteSpace <:+
      (cs.dropWhile isWhiteSpace).reverse := List.dropWhile_suffix _
  obtain ⟨pre, hpre⟩ := hsuf
  rw [trim, List.head?_reverse] at hc
  have hne : (cs.dropWhile isWhiteSpace).reverse.dropWhile isWhiteSpace ≠ [] := by
    intro h
    rw [h] at hc
    cases hc
  have hfront : ((cs.dropWhile isWhiteSpace).reverse.dropWhile isWhiteSpace).getLast? =
      (cs.dropWhile isWhiteSpace).head? :=
    calc _ = (pre ++ (cs.dropWhile isWhiteSpace).reverse.dropWhile isWhiteSpace).getLast? :=
          (List.getLast?_append_of_ne_nil _ hne).symm
      _ = (cs.dropWhile isWhiteSpace).reverse.getLast? := by rw [hpre]
      _ = _ := List.getLast?_reverse
  rw [hfront, Option.mem_def] at hc
  have := List.head?_dropWhile_not isWhiteSpace cs
  rw [hc] at this
  exact this

/-- The last character of a trimmed text is not white space. -/
theorem trim_last {cs : List Char} : ∀ c ∈ (trim cs).getLast?, isWhiteSpace c = false := by
  intro c hc
  rw [trim, List.getLast?_reverse, Option.mem_def] at hc
  have := List.head?_dropWhile_not isWhiteSpace (cs.dropWhile isWhiteSpace).reverse
  rw [hc] at this
  exact this

/-- A trimmed text is a piece of the text. -/
theorem trim_isInfix (cs : List Char) : trim cs <:+: cs := by
  have hback : (cs.dropWhile isWhiteSpace).reverse.dropWhile isWhiteSpace <:+
      (cs.dropWhile isWhiteSpace).reverse := List.dropWhile_suffix _
  have hprefix : trim cs <+: cs.dropWhile isWhiteSpace := by
    have := List.reverse_prefix.2 hback
    rwa [List.reverse_reverse] at this
  exact hprefix.isInfix.trans (List.dropWhile_suffix _).isInfix

/-! ## Words -/

/-- A word: a non-empty run of characters other than white space. -/
def IsWord (w : List Char) : Prop := w ≠ [] ∧ ∀ c ∈ w, isWhiteSpace c = false

/-- A white-space character ends the word being read, and the words after it start afresh. -/
theorem wordsFrom_append_blank {c : Char} (hc : isWhiteSpace c = true) (b : List Char) :
    ∀ (a acc : List Char), wordsFrom (a ++ c :: b) acc = wordsFrom a acc ++ wordsFrom b []
  | [], acc => by
    cases acc with
    | nil => simp [wordsFrom, hc]
    | cons x acc => simp [wordsFrom, hc]
  | x :: a, acc => by
    by_cases hx : isWhiteSpace x = true
    · cases acc with
      | nil => simp [wordsFrom, hx, wordsFrom_append_blank hc b a []]
      | cons y acc => simp [wordsFrom, hx, wordsFrom_append_blank hc b a []]
    · simp [wordsFrom, hx, wordsFrom_append_blank hc b a (x :: acc)]

/-- A white-space character splits the words of a text in two. -/
theorem words_append_blank {c : Char} (hc : isWhiteSpace c = true) (a b : List Char) :
    words (a ++ c :: b) = words a ++ words b :=
  wordsFrom_append_blank hc b a []

/-- White space before a text yields no word. -/
theorem words_blanks_append {a : List Char} (ha : ∀ c ∈ a, isWhiteSpace c = true) (b : List Char) :
    words (a ++ b) = words b := by
  induction a with
  | nil => rfl
  | cons c a ih =>
    have hrest : words (a ++ b) = words b := ih fun x hx => ha x (List.mem_cons_of_mem c hx)
    calc words (c :: a ++ b) = words ([] ++ c :: (a ++ b)) := rfl
      _ = words (a ++ b) := words_append_blank (ha c List.mem_cons_self) [] (a ++ b)
      _ = words b := hrest

/-- White space alone yields no word. -/
theorem words_blanks {b : List Char} (hb : ∀ c ∈ b, isWhiteSpace c = true) : words b = [] := by
  have h := words_blanks_append hb []
  rw [List.append_nil] at h
  exact h

/-- White space after a text yields no word. -/
theorem words_append_blanks (a : List Char) {b : List Char} (hb : ∀ c ∈ b, isWhiteSpace c = true) :
    words (a ++ b) = words a := by
  cases b with
  | nil => rw [List.append_nil]
  | cons c b =>
    rw [words_append_blank (hb c List.mem_cons_self),
      words_blanks fun x hx => hb x (List.mem_cons_of_mem c hx), List.append_nil]

/-- A text is its trimmed text between a run of white space before and one after. -/
theorem exists_blanks_trim (cs : List Char) : ∃ pre post, (∀ c ∈ pre, isWhiteSpace c = true) ∧
    (∀ c ∈ post, isWhiteSpace c = true) ∧ cs = pre ++ trim cs ++ post := by
  let kept := cs.dropWhile isWhiteSpace
  refine ⟨cs.takeWhile isWhiteSpace, (kept.reverse.takeWhile isWhiteSpace).reverse,
    fun c hc => List.mem_takeWhile_imp hc,
    fun c hc => List.mem_takeWhile_imp (List.mem_reverse.1 hc), ?_⟩
  -- split off the blanks at the front, then those at the back of what is kept
  have hback : kept = trim cs ++ (kept.reverse.takeWhile isWhiteSpace).reverse := by
    have h := congrArg List.reverse (List.takeWhile_append_dropWhile (p := isWhiteSpace)
      (l := kept.reverse))
    rw [List.reverse_append, List.reverse_reverse] at h
    exact h.symm
  calc cs = cs.takeWhile isWhiteSpace ++ kept := (List.takeWhile_append_dropWhile).symm
    _ = _ := by rw [List.append_assoc, ← hback]

/-- Trimming keeps the words of a text. -/
theorem words_trim (cs : List Char) : words (trim cs) = words cs := by
  obtain ⟨pre, post, hpre, hpost, hcs⟩ := exists_blanks_trim cs
  calc words (trim cs) = words (pre ++ trim cs ++ post) := by
        rw [words_append_blanks _ hpost, words_blanks_append hpre]
    _ = words cs := by rw [← hcs]

/-- Trimming twice trims once. -/
theorem trim_trim (cs : List Char) : trim (trim cs) = trim cs :=
  trim_eq_self trim_head trim_last

/-- Characters other than white space are added to the word being read. -/
theorem wordsFrom_of_not_blank : ∀ (w acc : List Char), (∀ c ∈ w, isWhiteSpace c = false) →
    wordsFrom w acc = wordsFrom [] (w.reverse ++ acc)
  | [], _, _ => rfl
  | x :: w, acc, h => by
    have hx : isWhiteSpace x = false := h x (by simp)
    calc wordsFrom (x :: w) acc = wordsFrom w (x :: acc) := by simp [wordsFrom, hx]
      _ = wordsFrom [] (w.reverse ++ x :: acc) :=
        wordsFrom_of_not_blank w (x :: acc) fun c hc => h c (by simp [hc])
      _ = wordsFrom [] ((x :: w).reverse ++ acc) := by simp

/-- A word is its own only word. -/
theorem words_word {w : List Char} (h : IsWord w) : words w = [w] := by
  rw [words, wordsFrom_of_not_blank w [] h.2, List.append_nil, wordsFrom,
    if_neg (by simpa using h.1), List.reverse_reverse]

/-- **Joined words split back.** Words joined by single spaces split back into those words. -/
theorem words_intercalate : ∀ {ws : List (List Char)}, (∀ w ∈ ws, IsWord w) →
    words ([' '].intercalate ws) = ws
  | [], _ => rfl
  | [w], h => by
    rw [List.intercalate_singleton]
    exact words_word (h w (by simp))
  | w :: w' :: ws, h => by
    rw [List.intercalate_cons_cons, List.append_assoc, List.singleton_append,
      words_append_blank (by decide), words_word (h w (by simp)),
      words_intercalate fun v hv => h v (List.mem_cons_of_mem w hv), List.singleton_append]

/-- Every word of a text is a word: the accumulator holds no white space, and a word is closed
only when it is not empty. -/
theorem isWord_of_mem_wordsFrom : ∀ (cs acc : List Char), (∀ c ∈ acc, isWhiteSpace c = false) →
    ∀ w ∈ wordsFrom cs acc, IsWord w
  | [], acc, hacc, w, hw => by
    by_cases he : acc.isEmpty
    · simp [wordsFrom, he] at hw
    · simp only [wordsFrom, he, Bool.false_eq_true, if_false, List.mem_singleton] at hw
      subst hw
      exact ⟨by simpa using he, fun c hc => hacc c (List.mem_reverse.1 hc)⟩
  | x :: cs, acc, hacc, w, hw => by
    by_cases hx : isWhiteSpace x = true
    · by_cases he : acc.isEmpty
      · simp only [wordsFrom, hx, he, if_true] at hw
        exact isWord_of_mem_wordsFrom cs [] (by simp) w hw
      · simp only [wordsFrom, hx, he, Bool.false_eq_true, if_true, if_false,
          List.mem_cons] at hw
        rcases hw with rfl | hw
        · exact ⟨by simpa using he, fun c hc => hacc c (List.mem_reverse.1 hc)⟩
        · exact isWord_of_mem_wordsFrom cs [] (by simp) w hw
    · simp only [wordsFrom, hx, Bool.false_eq_true, if_false] at hw
      refine isWord_of_mem_wordsFrom cs (x :: acc) (fun c hc => ?_) w hw
      rcases List.mem_cons.1 hc with rfl | hc
      · simpa using hx
      · exact hacc c hc

/-- Every word of a text is a word. -/
theorem isWord_of_mem_words {cs w : List Char} (h : w ∈ words cs) : IsWord w :=
  isWord_of_mem_wordsFrom cs [] (by simp) w h

/-- Words joined by single spaces end with the end of the last word. -/
theorem getLast?_intercalate : ∀ {ws : List (List Char)} {w : List Char}, ws.getLast? = some w →
    w ≠ [] → ([' '].intercalate ws).getLast? = w.getLast?
  | [], _, h, _ => by simp at h
  | [v], w, h, _ => by
    rw [List.getLast?_singleton, Option.some_inj] at h
    rw [List.intercalate_singleton, h]
  | v :: v' :: vs, w, h, hw => by
    have hlast : (v' :: vs).getLast? = some w := by
      rw [List.getLast?_cons_cons] at h
      exact h
    have hrest := getLast?_intercalate hlast hw
    have hne : [' '].intercalate (v' :: vs) ≠ [] := by
      intro he
      rw [he, List.getLast?_nil] at hrest
      exact absurd hrest.symm (by simpa using hw)
    rw [List.intercalate_cons_cons, List.getLast?_append_of_ne_nil _ hne, hrest]

/-! ## Single spacing -/

/-- The relation of neighbours in single-spaced text: not two spaces in a row. -/
def NotTwoSpaces (a b : Char) : Prop := ¬(a = ' ' ∧ b = ' ')

/-- Text in which white space stands only as single spaces between other characters. -/
structure SingleSpaced (cs : List Char) : Prop where
  blank_eq : ∀ c ∈ cs, isWhiteSpace c = true → c = ' '
  chain : cs.IsChain NotTwoSpaces
  head_ne : ∀ c ∈ cs.head?, isWhiteSpace c = false
  last_ne : ∀ c ∈ cs.getLast?, isWhiteSpace c = false

instance : DecidableRel NotTwoSpaces := fun a b => inferInstanceAs (Decidable ¬(a = ' ' ∧ b = ' '))

/-- Single spacing as checks that run over the characters of the text. -/
theorem singleSpaced_iff (cs : List Char) : SingleSpaced cs ↔
    (cs.all fun c => !isWhiteSpace c || c == ' ') = true ∧ cs.IsChain NotTwoSpaces ∧
      (cs.head?.all fun c => !isWhiteSpace c) = true ∧
      (cs.getLast?.all fun c => !isWhiteSpace c) = true := by
  constructor
  · intro h
    refine ⟨?_, h.chain, by simpa [Option.all_eq_true] using h.head_ne,
      by simpa [Option.all_eq_true] using h.last_ne⟩
    simp only [List.all_eq_true, Bool.or_eq_true, Bool.not_eq_true', beq_iff_eq]
    intro c hc
    by_cases hws : isWhiteSpace c = true
    · exact Or.inr (h.blank_eq c hc hws)
    · exact Or.inl (by simpa using hws)
  · rintro ⟨hblank, hchain, hhead, hlast⟩
    refine ⟨fun c hc hws => ?_, hchain, by simpa [Option.all_eq_true] using hhead,
      by simpa [Option.all_eq_true] using hlast⟩
    simpa [hws] using List.all_eq_true.1 hblank c hc

instance (cs : List Char) : Decidable (SingleSpaced cs) :=
  decidable_of_iff _ (singleSpaced_iff cs).symm

example : SingleSpaced "TIMESTAMP WITH TIME ZONE".toList := by decide

namespace SingleSpaced

/-- Reading single-spaced text word by word and joining the words by single spaces gives the
text back, after the word being read. -/
theorem intercalate_wordsFrom : ∀ (cs acc : List Char),
    (∀ c ∈ cs, isWhiteSpace c = true → c = ' ') → cs.IsChain NotTwoSpaces →
    (∀ c ∈ cs.getLast?, isWhiteSpace c = false) →
    (acc = [] → ∀ c ∈ cs.head?, isWhiteSpace c = false) →
    [' '].intercalate (wordsFrom cs acc) = acc.reverse ++ cs
  | [], acc, _, _, _, _ => by
    by_cases he : acc.isEmpty
    · simp [wordsFrom, List.isEmpty_iff.1 he]
    · simp [wordsFrom, he]
  | c :: cs, acc, hblank, hchain, hlast, hhead => by
    by_cases hc : isWhiteSpace c = true
    · -- a space: the word before it is not empty, and a word follows it
      have hspace : c = ' ' := hblank c (by simp) hc
      have hacc : acc ≠ [] := fun h => by simp [hhead h c rfl] at hc
      obtain ⟨d, ds, rfl⟩ : ∃ d ds, cs = d :: ds := by
        cases cs with
        | nil => simp [hc] at hlast
        | cons d ds => exact ⟨d, ds, rfl⟩
      have hd : isWhiteSpace d = false := by
        have hrel : NotTwoSpaces c d := hchain.rel_head? rfl
        by_contra hd
        exact hrel ⟨hspace, hblank d (by simp) (by simpa using hd)⟩
      have hrest := intercalate_wordsFrom (d :: ds) [] (fun x hx => hblank x (by simp [hx]))
        hchain.tail (by simpa using hlast) (fun _ x hx => by cases hx; exact hd)
      obtain ⟨w, ws, hws⟩ : ∃ w ws, wordsFrom (d :: ds) [] = w :: ws := by
        cases h : wordsFrom (d :: ds) [] with
        | nil => rw [h] at hrest; cases hrest
        | cons w ws => exact ⟨w, ws, rfl⟩
      rw [wordsFrom, if_pos hc, if_neg (by simpa using hacc), hws, List.intercalate_cons_cons,
        ← hws, hrest, hspace]
      simp
    · rw [wordsFrom, if_neg hc, intercalate_wordsFrom cs (c :: acc)
        (fun x hx => hblank x (by simp [hx])) hchain.tail
        (fun x hx => hlast x (by cases cs <;> simp_all)) (fun h => absurd h (by simp))]
      simp

/-- **Single-spaced text is its words joined by single spaces.** -/
theorem intercalate_words {cs : List Char} (h : SingleSpaced cs) :
    [' '].intercalate (words cs) = cs :=
  intercalate_wordsFrom cs [] h.blank_eq h.chain h.last_ne fun _ => h.head_ne

/-- The last word of single-spaced text ends the text. -/
theorem getLast?_of_words {cs w : List Char} (h : SingleSpaced cs)
    (hw : (words cs).getLast? = some w) : w.getLast? = cs.getLast? := by
  have hword := isWord_of_mem_words (List.mem_of_getLast? hw)
  have hend := getLast?_intercalate hw hword.1
  rw [h.intercalate_words] at hend
  exact hend.symm

/-- A word is single-spaced. -/
theorem word {w : List Char} (h : IsWord w) : SingleSpaced w where
  blank_eq c hc hws := by simp [h.2 c hc] at hws
  chain := List.Pairwise.isChain (List.pairwise_of_forall_mem_list fun a ha _ _ hab =>
    by simp [hab.1] at ha; exact absurd (h.2 ' ' ha) (by decide))
  head_ne c hc := h.2 c (List.mem_of_mem_head? hc)
  last_ne c hc := h.2 c (List.mem_of_mem_getLast? hc)

/-- Two single-spaced texts side by side are single-spaced. -/
theorem append {a b : List Char} (ha : SingleSpaced a) (hb : SingleSpaced b) :
    SingleSpaced (a ++ b) where
  blank_eq c hc := (List.mem_append.1 hc).elim (ha.blank_eq c) (hb.blank_eq c)
  chain := ha.chain.append hb.chain fun x hx _ _ hxy => by
    simp [hxy.1] at hx
    exact absurd (ha.last_ne ' ' hx) (by decide)
  head_ne c hc := by
    cases a with
    | nil => exact hb.head_ne c hc
    | cons x a => exact ha.head_ne c hc
  last_ne c hc := by
    by_cases hbn : b = []
    · subst hbn
      rw [List.append_nil] at hc
      exact ha.last_ne c hc
    · rw [List.getLast?_append_of_ne_nil _ hbn] at hc
      exact hb.last_ne c hc

/-- Two non-empty single-spaced texts joined by a space are single-spaced. -/
theorem append_space {a b : List Char} (ha : SingleSpaced a) (hb : SingleSpaced b)
    (hane : a ≠ []) (hbne : b ≠ []) : SingleSpaced (a ++ ' ' :: b) where
  blank_eq c hc hws := by
    rcases List.mem_append.1 hc with hc | hc
    · exact ha.blank_eq c hc hws
    · rcases List.mem_cons.1 hc with rfl | hc
      · rfl
      · exact hb.blank_eq c hc hws
  chain := by
    refine ha.chain.append (hb.chain.cons fun y hy hxy => ?_) fun x hx y hy hxy => ?_
    · rw [hxy.2] at hy
      exact absurd (hb.head_ne ' ' hy) (by decide)
    · rw [hxy.1] at hx
      exact absurd (ha.last_ne ' ' hx) (by decide)
  head_ne c hc := by
    rw [List.head?_append_of_ne_nil _ hane] at hc
    exact ha.head_ne c hc
  last_ne c hc := by
    obtain ⟨d, ds, rfl⟩ := List.exists_cons_of_ne_nil hbne
    rw [List.getLast?_append_of_ne_nil _ (List.cons_ne_nil _ _), List.getLast?_cons_cons] at hc
    exact hb.last_ne c hc

/-- Words joined by single spaces are single-spaced. -/
theorem intercalate : ∀ {ws : List (List Char)}, (∀ w ∈ ws, IsWord w) →
    SingleSpaced ([' '].intercalate ws)
  | [], _ => ⟨by simp, List.isChain_nil, by simp, by simp⟩
  | [w], h => by
    rw [List.intercalate_singleton]
    exact word (h w (by simp))
  | w :: w' :: ws, h => by
    have hw := h w (by simp)
    have hwords : ∀ v ∈ w' :: ws, IsWord v := fun v hv => h v (List.mem_cons_of_mem w hv)
    rw [List.intercalate_cons_cons, List.append_assoc, List.singleton_append]
    refine append_space (word hw) (intercalate hwords) hw.1 fun he => ?_
    -- the rest is not empty: its words are `w' :: ws`
    have hsplit := words_intercalate hwords
    rw [he] at hsplit
    cases hsplit

/-- A prefix of single-spaced text, trimmed, is single-spaced. -/
theorem trim_of_append {u v : List Char} (h : SingleSpaced (u ++ v)) : SingleSpaced (trim u) where
  blank_eq c hc := h.blank_eq c (List.mem_append_left v ((trim_isInfix u).subset hc))
  chain := List.IsChain.infix h.chain.left_of_append (trim_isInfix u)
  head_ne := trim_head
  last_ne := trim_last

end SingleSpaced

end RecordSchema.Text
