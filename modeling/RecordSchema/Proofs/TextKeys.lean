import RecordSchema.Proofs.Handles
import RecordSchema.Proofs.NameShape
/-!
# Text keys skip the exact tier

A text key is read as a name, and then looks like that name does, except that it never tries
the exact tier: a qualified reading starts at the partial tier, a single part at the simple
tier. This file proves that skipping the exact tier is all that differs:

* `Name.SameParts.agreeFromRight`, `Name.AgreeFromRight.simple` — a name with the key's parts
  agrees with it from the right, and so has the key's simple name: whatever the exact tier
  finds, the next tier finds too;
* `Cascade.congr` — cascades whose tests agree on their tiers have one outcome;
* `Cascade.found_le` — a cascade whose first tier some field passes stops there, no later than
  that field;
* `LookupKey.passes_text_iff` — after the exact tier, a text key and the name it reads as
  pass the same fields;
* `Schema.resolve_text_of_parse` — the main statement: where the name finds nothing, or
  finds it at a tier other than exact, the text finds the same; where the name finds an exact
  match, the text finds a partial match (a qualified name) or a simple match (a single part)
  at that position or before it.
-/

namespace RecordSchema

namespace Name

variable {c : Collation} {a b : Name}

/-- Names with the same parts agree on every part from the right. -/
theorem SameParts.agreeFromRight (h : a.SameParts c b) : a.AgreeFromRight c b := by
  obtain ⟨hlen, hparts⟩ := h
  intro j ha hb
  -- the `j`-th part from the right is at one position of both names
  have hpos : b.parts.length - 1 - j = a.parts.length - 1 - j := by rw [hlen]
  have hmatch := hparts (a.parts.length - 1 - j) (by omega) (by omega)
  simpa only [hpos] using hmatch

/-- Names that agree from the right have matching simple names: their last parts are
compared first. -/
theorem AgreeFromRight.simple (h : a.AgreeFromRight c b) : c.partEq a.simple b.simple = true := by
  have ha := List.length_pos_iff.2 a.parts_ne_nil
  have hb := List.length_pos_iff.2 b.parts_ne_nil
  have hlast := h 0 ha hb
  simpa only [Nat.sub_zero, Name.simple, List.getLast_eq_getElem] using hlast

end Name

namespace Cascade

variable {fs : List Field}

/-- Cascades whose tests agree on every tier they try have the same outcome. -/
theorem congr {P Q : MatchTier → Field → Prop} {ts : List MatchTier} {r : Option Match}
    (hPQ : ∀ t ∈ ts, ∀ f, P t f ↔ Q t f) (h : Cascade fs P ts r) : Cascade fs Q ts r := by
  induction h with
  | exhausted => exact .exhausted
  | @found t _ _ hi =>
    have htest : P t = Q t := funext fun f => propext (hPQ t List.mem_cons_self f)
    exact .found (htest ▸ hi)
  | @next t _ _ hnone _ ih =>
    refine .next (fun f hf hq => hnone f hf ((hPQ t List.mem_cons_self f).2 hq)) ?_
    exact ih fun t' ht' => hPQ t' (List.mem_cons_of_mem _ ht')

/-- A cascade whose first tier the field at position `i` passes stops at that tier, at `i` or
before. -/
theorem found_le {passes : MatchTier → Field → Prop} {t : MatchTier} {ts : List MatchTier}
    {r : Option Match} {i : Nat} (hi : i < fs.length) (hp : passes t fs[i])
    (h : Cascade fs passes (t :: ts) r) : ∃ j ≤ i, r = some ⟨j, t⟩ := by
  cases h with
  | found hj => exact ⟨_, hj.le hi hp, rfl⟩
  | next hnone _ => exact absurd hp (hnone _ (List.getElem_mem hi))

end Cascade

namespace LookupKey

variable {c : Collation} {t : String} {n : Name}

/-- A text that reads as `n` stands for the name `n`. -/
theorem name?_text (hn : Name.parse t = .ok n) : (LookupKey.text t).name? = some n := by
  simp [name?, hn]

/-- A text that reads as `n` compares simple names with the simple name of `n`. -/
theorem simpleText_text (hn : Name.parse t = .ok n) : (LookupKey.text t).simpleText = n.simple := by
  simp [simpleText, hn]

/-- A text that reads as `n` tries the tiers of `n` after the exact one. -/
theorem tiers_text (hn : Name.parse t = .ok n) : (LookupKey.text t).tiers = n.laterTiers := by
  simp [tiers, hn]

/-- After the exact tier, a text that reads as `n` and the name `n` pass the same fields. -/
theorem passes_text_iff (hn : Name.parse t = .ok n) :
    ∀ tier ∈ n.laterTiers, ∀ f,
      (LookupKey.text t).Passes c tier f ↔ (LookupKey.name n).Passes c tier f := by
  intro tier htier f
  have hlater : tier = .suffix ∨ tier = .simple := by
    unfold Name.laterTiers at htier
    split at htier <;> simp_all
  rcases hlater with rfl | rfl
  · rw [passes_suffix_iff (name?_text hn), passes_suffix_iff rfl]
  · rw [passes_simple_iff (simpleText_text hn)]
    rfl

end LookupKey

namespace Schema

/-- A name key runs the exact tier, then the tiers of its name. -/
theorem cascade_name (s : Schema) (n : Name) :
    Cascade s.fields ((LookupKey.name n).Passes s.collation) (.exact :: n.laterTiers)
      (s.resolve (.name n)).value :=
  resolves_resolve s (.name n)

/-- A text key that reads as `n` runs the tiers of `n` after the exact one, with the tests of
the name `n`. -/
theorem cascade_text (s : Schema) {t : String} {n : Name} (hn : Name.parse t = .ok n) :
    Cascade s.fields ((LookupKey.name n).Passes s.collation) n.laterTiers
      (s.resolve (.text t)).value := by
  have h : Cascade s.fields ((LookupKey.text t).Passes s.collation) (LookupKey.text t).tiers
      (s.resolve (.text t)).value := resolves_resolve s (.text t)
  rw [LookupKey.tiers_text hn] at h
  exact Cascade.congr (LookupKey.passes_text_iff hn) h

/-- The tier after the exact one: partial for a qualified name, simple for a single part. -/
theorem laterTiers_eq (n : Name) :
    ∃ ts, n.laterTiers = (if 2 ≤ n.parts.length then .suffix else .simple) :: ts := by
  unfold Name.laterTiers
  split
  · exact ⟨[.simple], rfl⟩
  · exact ⟨[], rfl⟩

/-- A field whose name has the key's parts passes the tier after the exact one. -/
theorem passes_later_of_exact (c : Collation) {n : Name} {f : Field}
    (h : (LookupKey.name n).Passes c .exact f) :
    (LookupKey.name n).Passes c (if 2 ≤ n.parts.length then .suffix else .simple) f := by
  obtain ⟨_, hn, hsame⟩ := h
  cases hn
  split
  · exact ⟨n, rfl, hsame.agreeFromRight⟩
  · exact hsame.agreeFromRight.simple

/-- **A text key is its name without the exact tier.** Let `t` read as the name `n`. Where `n`
finds nothing, or finds a field at a tier other than exact, the text `t` finds the same. Where
`n` finds an exact match at `i`, the text finds a match at `i` or before, at the partial tier
when `n` has two parts or more and at the simple tier otherwise. -/
theorem resolve_text_of_parse (s : Schema) {t : String} {n : Name} (hn : Name.parse t = .ok n) :
    ((∀ i, (s.resolve (.name n)).value ≠ some ⟨i, .exact⟩) →
        (s.resolve (.text t)).value = (s.resolve (.name n)).value) ∧
      ∀ i, (s.resolve (.name n)).value = some ⟨i, .exact⟩ →
        ∃ j ≤ i, (s.resolve (.text t)).value =
          some ⟨j, if 2 ≤ n.parts.length then .suffix else .simple⟩ := by
  have htext := cascade_text s hn
  refine ⟨fun hnotExact => ?_, fun i hi => ?_⟩
  · -- the exact tier found nothing, and the name went on with the tiers the text runs
    have hname := cascade_name s n
    generalize (s.resolve (.name n)).value = r at hname hnotExact ⊢
    cases hname with
    | found _ => exact absurd rfl (hnotExact _)
    | next _ hrest => exact Cascade.unique htext hrest
  · -- the field found exactly passes the next tier, so the text stops there, no later
    obtain ⟨hlt, hexact, -⟩ := Cascade.isFirstPos (hi ▸ cascade_name s n)
    obtain ⟨ts, hts⟩ := laterTiers_eq n
    rw [hts] at htext
    exact Cascade.found_le hlt (passes_later_of_exact s.collation hexact) htext

/-- The text `x.a` reads as the name `x.a`. In a schema `y.x.a, x.a` that name finds the second
field exactly, and the text finds the first field at the partial tier. -/
theorem text_key_finds_earlier_suffix :
    let xa : Name := ⟨["x", "a"], by simp, by simp⟩
    let s : Schema := { fields := [
      ⟨⟨0⟩, ⟨["y", "x", "a"], by simp, by simp⟩, .int, { sqlType := .integer }⟩,
      ⟨⟨1⟩, xa, .int, { sqlType := .integer }⟩] }
    Name.parse "x.a" = .ok xa ∧ (s.resolve (.name xa)).value = some ⟨1, .exact⟩ ∧
      ∃ j ≤ 1, (s.resolve (.text "x.a")).value =
        some ⟨j, if 2 ≤ xa.parts.length then .suffix else .simple⟩ := by
  intro xa s
  have hparse : Name.parse "x.a" = .ok xa := by decide
  have hexact : (s.resolve (.name xa)).value = some ⟨1, .exact⟩ := by decide
  exact ⟨hparse, hexact, (resolve_text_of_parse s hparse).2 1 hexact⟩

end Schema

end RecordSchema
