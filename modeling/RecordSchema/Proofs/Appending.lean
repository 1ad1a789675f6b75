import RecordSchema.Proofs.Resolution
/-!
# Appending fields keeps references

A schema grows at its end: a builder that takes a schema's fields and adds more makes a schema
whose first positions are the old ones. This file proves that such growth never sends a key
that resolved to an old position to another old position: every tier takes its least
candidate, and the tiers of a key are tried in their declared order, so an appended field can
only win at a strictly better tier.

* `IsFirstPos.append`, `IsFirstPos.length_le_of_append` — a least position stays least when
  fields are appended, and a least position that no old field passes is a new one;
* `Cascade.tier_mem`, `Cascade.append` — the outcome of a cascade over the longer list is the
  old one, or a new position at a tier tried before the old one;
* `LookupKey.tiers_sorted` — every key tries its tiers in their declared order;
* `Schema.resolve_index_append` — a position key looks at the degree only;
* `Schema.resolve_append` — the main statement, for every schema, appended fields and key; a
  position key, or a text key that does not read as a qualified name, keeps every match;
* `Schema.index_past_end_resolves_after_append` — a position key past the old end, which
  found nothing, finds an appended field.
-/

namespace RecordSchema

variable {fs es : List Field}

/-- A least position stays least when fields are appended. -/
theorem IsFirstPos.append {p : Field → Prop} {i : Nat} (h : IsFirstPos fs p i) (es : List Field) :
    IsFirstPos (fs ++ es) p i := by
  obtain ⟨hi, hp, hbefore⟩ := h
  refine ⟨by rw [List.length_append]; omega, by rwa [List.getElem_append_left hi], fun j hj => ?_⟩
  rw [List.getElem_append_left (by omega)]
  exact hbefore j hj

/-- When no field of `fs` passes, the least passing position of `fs ++ es` is an appended one. -/
theorem IsFirstPos.length_le_of_append {p : Field → Prop} {j : Nat} (h : IsFirstPos (fs ++ es) p j)
    (hnone : ∀ f ∈ fs, ¬ p f) : fs.length ≤ j := by
  obtain ⟨hj, hp, -⟩ := h
  by_contra hlt
  rw [List.getElem_append_left (by omega)] at hp
  exact hnone _ (List.getElem_mem _) hp

namespace Cascade

variable {passes : MatchTier → Field → Prop}

/-- A cascade finds its match at one of its tiers. -/
theorem tier_mem {ts : List MatchTier} {m : Match} (h : Cascade fs passes ts (some m)) :
    m.tier ∈ ts := by
  generalize hr : (some m : Option Match) = r at h
  induction h with
  | exhausted => cases hr
  | found _ =>
    cases hr
    exact List.mem_cons_self
  | next _ _ ih => exact List.mem_cons_of_mem _ (ih hr)

/-- **Appending to a cascade.** Over tiers in increasing order, the outcome over `fs ++ es` is
the outcome over `fs`, or a match at an appended position whose tier comes before the tier of
the old match, if there was one. -/
theorem append {ts : List MatchTier} {r r' : Option Match} (hsorted : ts.Pairwise (· < ·))
    (h : Cascade fs passes ts r) (h' : Cascade (fs ++ es) passes ts r') :
    r' = r ∨ ∃ m', r' = some m' ∧ fs.length ≤ m'.index ∧ ∀ m, r = some m → m'.tier < m.tier := by
  -- induction on the old cascade, taking the new one apart at the same tier
  induction h generalizing r' with
  | exhausted =>
    cases h'
    exact .inl rfl
  | found hi =>
    cases h' with
    | found hj => exact .inl (by rw [(hi.append es).unique hj])
    | next hnone _ =>
      obtain ⟨f, hf, hp⟩ := (hi.append es).exists_mem
      exact absurd hp (hnone f hf)
  | next hnone hrest ih =>
    cases h' with
    | found hj =>
      -- no old field passes this tier, so the new match is appended, at an earlier tier
      refine .inr ⟨_, rfl, hj.length_le_of_append hnone, fun m hm => ?_⟩
      subst hm
      exact List.rel_of_pairwise_cons hsorted hrest.tier_mem
    | next _ hrest' => exact ih hsorted.of_cons hrest'

end Cascade

/-- Every key tries its tiers in their declared order. -/
theorem LookupKey.tiers_sorted (k : LookupKey) : k.tiers.Pairwise (· < ·) := by
  cases k with
  | field f =>
    simp only [LookupKey.tiers, Name.laterTiers]
    split <;> decide
  | name n =>
    simp only [LookupKey.tiers, Name.laterTiers]
    split <;> decide
  | text t =>
    simp only [LookupKey.tiers]
    split
    · simp only [Name.laterTiers]
      split <;> decide
    · decide
  | index i => exact List.Pairwise.nil

/-- A text key that does not read as a qualified name is tried at the simple tier only. -/
theorem LookupKey.tiers_text_of_not_qualified {t : String}
    (hsimple : ∀ n, Name.parse t = .ok n → n.isQualified = false) :
    (LookupKey.text t).tiers = [.simple] := by
  simp only [LookupKey.tiers]
  split
  · rename_i n hn
    unfold Name.laterTiers
    rw [if_neg]
    rw [← Name.isQualified_iff, hsimple n hn]
    exact Bool.false_ne_true
  · rfl

namespace Schema

/-- The schema `s` with `es` appended, under the same collation and policy. -/
abbrev appendFields (s : Schema) (es : List Field) : Schema := { s with fields := s.fields ++ es }

/-- For a key other than a position, resolving after appending gives the old outcome, or an
appended position at a tier tried before the old match's. -/
theorem resolve_append_of_cascade (s : Schema) (es : List Field) {k : LookupKey}
    (hk : ∀ i, k ≠ .index i) :
    ((s.appendFields es).resolve k).value = (s.resolve k).value ∨
      ∃ m', ((s.appendFields es).resolve k).value = some m' ∧ s.degree ≤ m'.index ∧
        ∀ m, (s.resolve k).value = some m → m'.tier < m.tier := by
  have hold := resolves_resolve s k
  have hnew := resolves_resolve (s.appendFields es) k
  cases k with
  | index i => exact absurd rfl (hk i)
  | field f => exact Cascade.append (LookupKey.tiers_sorted _) hold hnew
  | name n => exact Cascade.append (LookupKey.tiers_sorted _) hold hnew
  | text t => exact Cascade.append (LookupKey.tiers_sorted _) hold hnew

/-- A key other than a position resolves at one of its tiers. -/
theorem resolve_tier_mem (s : Schema) {k : LookupKey} (hk : ∀ i, k ≠ .index i) {m : Match}
    (hm : (s.resolve k).value = some m) : m.tier ∈ k.tiers := by
  have h := resolves_resolve s k
  rw [hm] at h
  cases k with
  | index i => exact absurd rfl (hk i)
  | field f => exact Cascade.tier_mem h
  | name n => exact Cascade.tier_mem h
  | text t => exact Cascade.tier_mem h

/-- A key whose only tier is the simple one keeps its match when fields are appended. -/
theorem resolve_append_of_simple (s : Schema) (es : List Field) {k : LookupKey}
    (hk : ∀ i, k ≠ .index i) (htiers : k.tiers = [.simple]) {m : Match}
    (hm : (s.resolve k).value = some m) : ((s.appendFields es).resolve k).value = some m := by
  rcases resolve_append_of_cascade s es hk with hsame | ⟨m', hm', -, hlt⟩
  · rw [hsame, hm]
  · -- both matches are at the simple tier, so neither is before the other
    have hold := resolve_tier_mem s hk hm
    have hnew := resolve_tier_mem (s.appendFields es) hk hm'
    rw [htiers, List.mem_singleton] at hold hnew
    have h := hlt m hm
    rw [hold, hnew] at h
    exact absurd h (by decide)

/-- A position key keeps its match when fields are appended, and one that found nothing finds
nothing or an appended position: it looks at the degree only, which appending can only
raise. -/
theorem resolve_index_append (s : Schema) (es : List Field) (i : Nat) :
    (∀ m, (s.resolve (.index i)).value = some m →
        ((s.appendFields es).resolve (.index i)).value = some m) ∧
      ((s.resolve (.index i)).value = none →
        ((s.appendFields es).resolve (.index i)).value = none ∨
          ∃ m', ((s.appendFields es).resolve (.index i)).value = some m' ∧ s.degree ≤ m'.index) := by
  have hdeg : s.degree ≤ (s.appendFields es).degree := by
    simp only [degree, List.length_append]
    omega
  refine ⟨fun m hm => ?_, fun hm => ?_⟩
  · simp only [resolve] at hm ⊢
    split at hm
    · rw [if_pos (by omega)]
      exact hm
    · cases hm
  · simp only [resolve] at hm ⊢
    split at hm
    · cases hm
    · split
      · exact .inr ⟨_, rfl, by show s.degree ≤ i; omega⟩
      · exact .inl rfl

/-- **Appending fields keeps references.** For every schema `s`, list of fields `es` and key
`k`, let `s'` be `s` with `es` appended. A match `⟨i, t⟩` of `k` in `s` is kept in `s'`, or
replaced by a match at an appended position at a tier strictly before `t`; a key that found
nothing in `s` finds nothing in `s'` or an appended position. A position key, and a text key
that does not read as a qualified name, keep every match they had. -/
theorem resolve_append (s : Schema) (es : List Field) (k : LookupKey) :
    let s' := s.appendFields es
    (∀ m, (s.resolve k).value = some m →
        (s'.resolve k).value = some m ∨
          ∃ m', (s'.resolve k).value = some m' ∧ s.degree ≤ m'.index ∧ m'.tier < m.tier) ∧
      ((s.resolve k).value = none →
        (s'.resolve k).value = none ∨ ∃ m', (s'.resolve k).value = some m' ∧ s.degree ≤ m'.index) ∧
      ((∃ i, k = .index i) ∨ (∃ t, k = .text t ∧ ∀ n, Name.parse t = .ok n → n.isQualified = false) →
        ∀ m, (s.resolve k).value = some m → (s'.resolve k).value = some m) := by
  intro s'
  by_cases hk : ∃ i, k = .index i
  · obtain ⟨i, rfl⟩ := hk
    obtain ⟨hkeep, hnone⟩ := resolve_index_append s es i
    exact ⟨fun m hm => .inl (hkeep m hm), hnone, fun _ => hkeep⟩
  · have hk' : ∀ i, k ≠ .index i := fun i he => hk ⟨i, he⟩
    rcases resolve_append_of_cascade s es hk' with hsame | ⟨m', hm', hdeg, hlt⟩
    · refine ⟨fun m hm => .inl (hsame.trans hm), fun hm => .inl (hsame.trans hm),
        fun _ m hm => hsame.trans hm⟩
    · refine ⟨fun m hm => .inr ⟨m', hm', hdeg, hlt m hm⟩, fun _ => .inr ⟨m', hm', hdeg⟩, ?_⟩
      rintro (⟨i, rfl⟩ | ⟨t, rfl, hsimple⟩) m hm
      · exact absurd rfl (hk' i)
      · exact resolve_append_of_simple s es hk' (LookupKey.tiers_text_of_not_qualified hsimple) hm

/-- A position key past the end of a schema finds nothing there, and finds the field appended
at that position. -/
theorem index_past_end_resolves_after_append :
    let a : Field := ⟨⟨0⟩, ⟨["a"], by simp, by simp⟩, .int, { sqlType := .integer }⟩
    let b : Field := ⟨⟨1⟩, ⟨["b"], by simp, by simp⟩, .int, { sqlType := .integer }⟩
    let s : Schema := { fields := [a] }
    (s.resolve (.index 1)).value = none ∧
      ((s.appendFields [b]).resolve (.index 1)).value = some ⟨1, .position⟩ :=
  ⟨rfl, rfl⟩

end Schema

end RecordSchema
