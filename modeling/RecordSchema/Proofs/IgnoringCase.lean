import RecordSchema.Proofs.Ambiguity
import RecordSchema.Proofs.Appending
/-!
# Ignoring case finds at least as much

A schema compares the parts of names under its collation. Comparing them after folding case
identifies more parts than comparing them character for character, so every tier of every
key has at least the candidates it had before. Since the tiers are tried in order and each
takes its least candidate, the same fields under the case-insensitive collation are found at
the same tier or an earlier one, and at the same tier no later in the schema.

* `Collation.Finer` — parts equal under one collation are equal under the other;
  `Collation.caseSensitive_finer`: comparing parts character for character is finer than
  every collation. The proof uses only that a part folds to one text, so it holds for any
  lowercase mapping;
* `LookupKey.Passes.mono`, `TwoPass.mono` — a finer collation passes fewer fields at every
  tier;
* `Cascade.mono` — over tiers tried in order, tests that pass more fields find a match at an
  earlier tier, or at the same tier at the same position or before;
* `Schema.resolve_finer`, `Schema.resolve_events_finer` — the same for resolution, and at the
  same tier every ambiguity event under the finer collation is met by one under the coarser
  collation that lists at least its candidates;
* `Schema.resolve_ignoring_case` — the main statement, for the two collations of the library.
-/

namespace RecordSchema

/-! ## Finer collations -/

/-- A collation is finer than another when parts equal under it are equal under the other. -/
def Collation.Finer (c d : Collation) : Prop :=
  ∀ a b, c.partEq a b = true → d.partEq a b = true

/-- Comparing parts character for character is finer than every collation: identical parts
fold to identical texts, whatever the lowercase mapping. -/
theorem Collation.caseSensitive_finer (d : Collation) : Collation.caseSensitive.Finer d := by
  intro a b h
  have hab : a = b := by simpa [Collation.partEq] using h
  subst hab
  exact d.partEq_self a

section Finer

variable {c d : Collation} (hcd : c.Finer d)
include hcd

theorem Name.SameParts.mono {a b : Name} (h : a.SameParts c b) : a.SameParts d b :=
  ⟨h.1, fun j ha hb => hcd _ _ (h.2 j ha hb)⟩

theorem Name.AgreeFromRight.mono {a b : Name} (h : a.AgreeFromRight c b) :
    a.AgreeFromRight d b :=
  fun j ha hb => hcd _ _ (h j ha hb)

/-- A field that passes a tier under a finer collation passes it under the coarser one. -/
theorem LookupKey.Passes.mono {k : LookupKey} {t : MatchTier} {f : Field}
    (h : k.Passes c t f) : k.Passes d t f := by
  cases t with
  | identity => exact h
  | exact =>
    obtain ⟨n, hn, hsame⟩ := h
    exact ⟨n, hn, hsame.mono hcd⟩
  | suffix =>
    obtain ⟨n, hn, hagree⟩ := h
    exact ⟨n, hn, hagree.mono hcd⟩
  | simple => exact hcd _ _ h
  | position => exact h

end Finer

/-- Two positions passing a test pass every weaker test. -/
theorem TwoPass.mono {fs : List Field} {p q : Field → Prop} (h : TwoPass fs p)
    (hpq : ∀ f, p f → q f) : TwoPass fs q := by
  obtain ⟨i, j, hi, hj, hij, hpi, hpj⟩ := h
  exact ⟨i, j, hi, hj, hij, hpq _ hpi, hpq _ hpj⟩

/-! ## Cascades with weaker tests -/

/-- **Weaker tests find no worse.** Over tiers tried in their order, if every tier's test `Q`
passes the fields that `P` passes, then whatever the cascade of `P` finds, the cascade of `Q`
finds a match at an earlier tier, or at the same tier at the same position or before. -/
theorem Cascade.mono {fs : List Field} {P Q : MatchTier → Field → Prop}
    (hPQ : ∀ t f, P t f → Q t f) {ts : List MatchTier} (hsorted : ts.Pairwise (· < ·))
    {r r' : Option Match} (h : Cascade fs P ts r) (h' : Cascade fs Q ts r') :
    ∀ m, r = some m → ∃ m', r' = some m' ∧
      (m'.tier < m.tier ∨ m'.tier = m.tier ∧ m'.index ≤ m.index) := by
  -- induction on the cascade of `P`, taking the cascade of `Q` apart at the same tier
  induction h generalizing r' with
  | exhausted =>
    intro m hm
    cases hm
  | found hi =>
    intro m hm
    cases hm
    cases h' with
    | found hj => exact ⟨_, rfl, .inr ⟨rfl, hj.le hi.1 (hPQ _ _ hi.2.1)⟩⟩
    | next hnone _ =>
      obtain ⟨f, hf, hp⟩ := hi.exists_mem
      exact absurd (hPQ _ _ hp) (hnone f hf)
  | next _ hrest ih =>
    intro m hm
    cases h' with
    | found _ =>
      -- `Q` stops at a tier where `P` found nothing, before the tier `P` stops at
      subst hm
      exact ⟨_, rfl, .inl (List.rel_of_pairwise_cons hsorted hrest.tier_mem)⟩
    | next _ hrest' => exact ih hsorted.of_cons hrest' m hm

/-! ## Resolution under a coarser collation -/

namespace Schema

/-- An event belongs to the tier of the match it reports. -/
theorem event_tier {s : Schema} {k : LookupKey} {m : Match} (hm : (s.resolve k).value = some m)
    {e : AmbiguousMatch} (he : e ∈ (s.resolve k).events) : e.tier = m.tier := by
  obtain ⟨hv, -⟩ := (resolve_cases s k).reports.event e he
  rw [hm, Option.some.injEq] at hv
  rw [hv]

variable (s : Schema) {d : Collation} (hcd : s.collation.Finer d)
include hcd

/-- Under a coarser collation a key that resolved resolves at an earlier tier, or at the same
tier at the same position or before. -/
theorem resolve_finer (k : LookupKey) {m : Match} (hm : (s.resolve k).value = some m) :
    ∃ m', ({ s with collation := d }.resolve k).value = some m' ∧
      (m'.tier < m.tier ∨ m'.tier = m.tier ∧ m'.index ≤ m.index) := by
  have hold := resolves_resolve s k
  have hnew := resolves_resolve { s with collation := d } k
  have hPQ : ∀ t f, k.Passes s.collation t f → k.Passes d t f :=
    fun _ _ => LookupKey.Passes.mono hcd
  cases k with
  | index i =>
    -- a position key does not look at names
    exact ⟨m, hm, .inr ⟨rfl, Nat.le_refl _⟩⟩
  | field f => exact Cascade.mono hPQ (LookupKey.tiers_sorted _) hold hnew m hm
  | name n => exact Cascade.mono hPQ (LookupKey.tiers_sorted _) hold hnew m hm
  | text t => exact Cascade.mono hPQ (LookupKey.tiers_sorted _) hold hnew m hm

/-- When a coarser collation resolves a key at the same tier, every ambiguity event under the
finer collation is met by one under the coarser, for the same key and tier, that lists every
candidate the finer one listed. -/
theorem resolve_events_finer (k : LookupKey) {m m' : Match} (hm : (s.resolve k).value = some m)
    (hm' : ({ s with collation := d }.resolve k).value = some m') (htier : m'.tier = m.tier) :
    ∀ e ∈ (s.resolve k).events, ∃ e' ∈ ({ s with collation := d }.resolve k).events,
      e'.key = e.key ∧ e'.tier = e.tier ∧ e.candidates ⊆ e'.candidates := by
  intro e he
  have hrep := (resolve_cases s k).reports
  have hrep' := (resolve_cases { s with collation := d } k).reports
  -- the event says that two fields pass the match's tier; they pass it under `d` too
  obtain ⟨m₀, hm₀, hkind, htwo⟩ := hrep.ne_nil_iff.1 (List.ne_nil_of_mem he)
  rw [hm, Option.some.injEq] at hm₀
  subst hm₀
  have htwo' : TwoPass s.fields (k.Passes d m'.tier) :=
    htier ▸ htwo.mono fun _ => LookupKey.Passes.mono hcd
  obtain ⟨e', he'⟩ :=
    List.exists_mem_of_ne_nil _ (hrep'.ne_nil_iff.2 ⟨m', hm', htier ▸ hkind, htwo'⟩)
  obtain ⟨-, hkey, -, -, hlist⟩ := hrep.event e he
  obtain ⟨-, hkey', -, -, hlist'⟩ := hrep'.event e' he'
  have het : e'.tier = e.tier := by
    rw [event_tier hm he, event_tier hm' he', htier]
  refine ⟨e', he', hkey'.trans hkey.symm, het, fun j hj => ?_⟩
  -- a candidate under `c` passes the tier under `d`, so it is a candidate under `d`
  obtain ⟨hlt, hp⟩ := (hlist.2 j).1 hj
  exact (hlist'.2 j).2 ⟨hlt, het ▸ LookupKey.Passes.mono hcd hp⟩

end Schema

/-- **Ignoring case finds at least as much.** Take a list of fields as a case-sensitive and as
a case-insensitive schema. A key that resolves case-sensitively to the position `i` at the
tier `t` resolves case-insensitively at a tier before `t`, or at `t` itself at `i` or before;
in the second case each case-sensitive ambiguity event is met by a case-insensitive one for
the same key and tier that lists every candidate it listed. -/
theorem Schema.resolve_ignoring_case (fs : List Field) (p : AmbiguityPolicy) (k : LookupKey) :
    let cs : Schema := { fields := fs, collation := .caseSensitive, policy := p }
    let ci : Schema := { fields := fs, collation := .caseInsensitive, policy := p }
    ∀ m, (cs.resolve k).value = some m → ∃ m', (ci.resolve k).value = some m' ∧
      (m'.tier < m.tier ∨ m'.tier = m.tier ∧ m'.index ≤ m.index ∧
        ∀ e ∈ (cs.resolve k).events, ∃ e' ∈ (ci.resolve k).events,
          e'.key = e.key ∧ e'.tier = e.tier ∧ e.candidates ⊆ e'.candidates) := by
  intro cs ci m hm
  have hfiner : cs.collation.Finer .caseInsensitive := Collation.caseSensitive_finer _
  obtain ⟨m', hm', hbetter⟩ := resolve_finer cs hfiner k hm
  refine ⟨m', hm', ?_⟩
  rcases hbetter with hlt | ⟨htier, hle⟩
  · exact .inl hlt
  · exact .inr ⟨htier, hle, resolve_events_finer cs hfiner k hm hm' htier⟩

/-- In the fields `A, a, a` the text `a` finds the second field case-sensitively, with an
ambiguity event for the second and third; case-insensitively it is found no later, and that
event is met. -/
theorem Schema.text_resolves_earlier_ignoring_case :
    let fs : List Field := [
      ⟨⟨0⟩, ⟨["A"], by simp, by simp⟩, .int, { sqlType := .integer }⟩,
      ⟨⟨1⟩, ⟨["a"], by simp, by simp⟩, .int, { sqlType := .integer }⟩,
      ⟨⟨2⟩, ⟨["a"], by simp, by simp⟩, .int, { sqlType := .integer }⟩]
    let cs : Schema := { fields := fs }
    let ci : Schema := { fields := fs, collation := .caseInsensitive }
    (cs.resolve (.text "a")).value = some ⟨1, .simple⟩ ∧
      ∃ m', (ci.resolve (.text "a")).value = some m' ∧
        (m'.tier < MatchTier.simple ∨ m'.tier = .simple ∧ m'.index ≤ 1 ∧
          ∀ e ∈ (cs.resolve (.text "a")).events, ∃ e' ∈ (ci.resolve (.text "a")).events,
            e'.key = e.key ∧ e'.tier = e.tier ∧ e.candidates ⊆ e'.candidates) := by
  intro fs cs ci
  have hcs : (cs.resolve (.text "a")).value = some ⟨1, .simple⟩ := by decide
  exact ⟨hcs, resolve_ignoring_case fs .warn (.text "a") _ hcs⟩

end RecordSchema
