import Mathlib.Data.List.Basic
import RecordSchema.Schema.Resolve
import RecordSchema.Proofs.NameMatch
/-!
# Resolution, stated declaratively

`Schema.resolve` walks a key through tiers with `findIdx?` and a list of candidate
positions. This file says what it computes without either:

* `IsFirstPos fs p i` — `i` is the least position of `fs` whose field satisfies `p`;
* `LookupKey.Passes c k t` — what a field must satisfy to be found for the key `k` at the
  tier `t`: the key field's identity, the key name's parts (`Name.SameParts`), the key name's
  parts from the right (`Name.AgreeFromRight`), or the key's simple text;
* `LookupKey.tiers k` — the tiers the key runs, in order;
* `Cascade` — the first tier that some field passes, at its least position, or nothing;
* `Schema.Resolves s k r` — a position key finds its position when the schema has it, any
  other key finds what the cascade of its tiers finds.

The main statement is `Schema.resolve_eq_iff_resolves`: the result of `resolve` is `r`
exactly when `Resolves s k r`, and a position it returns holds the field that `field` returns.
On the way, `Schema.positionsWhere_eq_findIdxs` ties the candidate list to `List.findIdxs`,
and `Cascade.cons_findIdx?` runs one tier.
-/

namespace RecordSchema

/-! ## Least positions -/

/-- `i` is the least position of `fs` whose field satisfies `p`. -/
def IsFirstPos (fs : List Field) (p : Field → Prop) (i : Nat) : Prop :=
  ∃ h : i < fs.length, p fs[i] ∧ ∀ j (hj : j < i), ¬ p fs[j]

/-- There is at most one least position. -/
theorem IsFirstPos.unique {fs : List Field} {p : Field → Prop} {i j : Nat}
    (hi : IsFirstPos fs p i) (hj : IsFirstPos fs p j) : i = j := by
  obtain ⟨_, hpi, hbi⟩ := hi
  obtain ⟨_, hpj, hbj⟩ := hj
  rcases Nat.lt_trichotomy i j with h | h | h
  · exact absurd hpi (hbj i h)
  · exact h
  · exact absurd hpj (hbi j h)

/-- A least position comes at or before every position whose field satisfies the test. -/
theorem IsFirstPos.le {fs : List Field} {p : Field → Prop} {i j : Nat} (hj : IsFirstPos fs p j)
    (hi : i < fs.length) (hp : p fs[i]) : j ≤ i := by
  obtain ⟨_, _, hbefore⟩ := hj
  exact Nat.le_of_not_lt fun hlt => hbefore i hlt hp

/-- A least position is a position of a field that satisfies the test. -/
theorem IsFirstPos.exists_mem {fs : List Field} {p : Field → Prop} {i : Nat}
    (hi : IsFirstPos fs p i) : ∃ f ∈ fs, p f := by
  obtain ⟨hlt, hp, -⟩ := hi
  exact ⟨fs[i], List.getElem_mem hlt, hp⟩

/-- The list of positions whose element passes `p`, numbered from `k`, is `findIdxs`. -/
theorem filterMap_zip_range' {α : Type} (p : α → Bool) :
    ∀ (xs : List α) (k : Nat),
      ((List.range' k xs.length).zip xs).filterMap (fun (i, x) => if p x then some i else none) =
        xs.findIdxs p k
  | [], _ => rfl
  | x :: xs, k => by
    rw [List.length_cons, List.range'_succ, List.zip_cons_cons, List.filterMap_cons,
      List.findIdxs_cons, filterMap_zip_range' p xs (k + 1)]
    by_cases hx : p x <;> simp [hx]

/-- The first of the positions `findIdxs` lists is the one `findIdx?` finds. -/
theorem head?_findIdxs {α : Type} (p : α → Bool) :
    ∀ (xs : List α) (k : Nat), (xs.findIdxs p k).head? = (xs.findIdx? p).map (· + k)
  | [], _ => rfl
  | x :: xs, k => by
    rw [List.findIdxs_cons, List.findIdx?_cons]
    by_cases hx : p x
    · simp [hx]
    · simp only [hx, Bool.false_eq_true, if_false, head?_findIdxs p xs (k + 1), Option.map_map]
      congr 1
      funext i
      simp only [Function.comp_apply]
      omega

namespace Schema

/-- The candidates of a tier are the positions `findIdxs` lists. -/
theorem positionsWhere_eq_findIdxs (s : Schema) (p : Field → Bool) :
    s.positionsWhere p = s.fields.findIdxs p := by
  unfold positionsWhere
  rw [List.range_eq_range']
  exact filterMap_zip_range' p s.fields 0

/-- A tier finds the least position of a field passing its test. -/
theorem firstMatch_value (s : Schema) (k : LookupKey) (t : MatchTier) (p : Field → Bool) :
    (s.firstMatch k t p).value = (s.fields.findIdx? p).map fun i => ⟨i, t⟩ := by
  -- the chosen position is the first candidate
  have hhead : (s.positionsWhere p).head? = s.fields.findIdx? p := by
    rw [positionsWhere_eq_findIdxs, head?_findIdxs]
    simp
  unfold firstMatch
  rw [← hhead]
  rcases s.positionsWhere p with _ | ⟨i, _ | ⟨j, rest⟩⟩ <;> rfl

end Schema

/-! ## Tiers, declaratively -/

/-- The outcome of trying tiers in order against a list of fields: the first tier that some
field passes, at the least position of a field passing it, or nothing when no tier is
passed. -/
inductive Cascade (fs : List Field) (passes : MatchTier → Field → Prop) :
    List MatchTier → Option Match → Prop
  /-- No tier is left: nothing is found. -/
  | exhausted : Cascade fs passes [] none
  /-- Some field passes the first tier: its least such position is found, at that tier. -/
  | found {t : MatchTier} {ts : List MatchTier} {i : Nat} :
      IsFirstPos fs (passes t) i → Cascade fs passes (t :: ts) (some ⟨i, t⟩)
  /-- No field passes the first tier: the remaining tiers decide. -/
  | next {t : MatchTier} {ts : List MatchTier} {r : Option Match} :
      (∀ f ∈ fs, ¬ passes t f) → Cascade fs passes ts r → Cascade fs passes (t :: ts) r

namespace Cascade

variable {fs : List Field} {passes : MatchTier → Field → Prop}

/-- A cascade has one outcome. -/
theorem unique {ts : List MatchTier} {r₁ r₂ : Option Match} (h₁ : Cascade fs passes ts r₁)
    (h₂ : Cascade fs passes ts r₂) : r₁ = r₂ := by
  induction h₁ generalizing r₂ with
  | exhausted => cases h₂; rfl
  | found hi =>
    cases h₂ with
    | found hj => rw [hi.unique hj]
    | next hnone _ =>
      obtain ⟨f, hf, hp⟩ := hi.exists_mem
      exact absurd hp (hnone f hf)
  | next hnone _ ih =>
    cases h₂ with
    | found hj =>
      obtain ⟨f, hf, hp⟩ := hj.exists_mem
      exact absurd hp (hnone f hf)
    | next _ h => exact ih h

/-- **One tier.** Running a tier with `findIdx?` and a Boolean test that decides it either stops
at the least passing position or leaves the outcome to the remaining tiers. -/
theorem cons_findIdx? {t : MatchTier} {ts : List MatchTier} {r : Option Match}
    {b : Field → Bool} (hb : ∀ f, b f = true ↔ passes t f) (rest : Cascade fs passes ts r) :
    Cascade fs passes (t :: ts) (((fs.findIdx? b).map fun i => ⟨i, t⟩).or r) := by
  cases h : fs.findIdx? b with
  | some i =>
    obtain ⟨hi, hbi, hlt⟩ := List.findIdx?_eq_some_iff_getElem.1 h
    exact .found ⟨hi, (hb _).1 hbi, fun j hj hp => hlt j hj ((hb _).2 hp)⟩
  | none =>
    refine .next (fun f hf hp => ?_) rest
    have hfalse := List.findIdx?_eq_none_iff.1 h f hf
    rw [(hb f).2 hp] at hfalse
    exact Bool.noConfusion hfalse

/-- A last tier run by `findIdx?`. -/
theorem single_findIdx? {t : MatchTier} {b : Field → Bool} (hb : ∀ f, b f = true ↔ passes t f) :
    Cascade fs passes [t] ((fs.findIdx? b).map fun i => ⟨i, t⟩) := by
  have h := cons_findIdx? hb (exhausted : Cascade fs passes [] none)
  rwa [Option.or_none] at h

end Cascade

namespace LookupKey

/-- The name whose tiers a key runs: the name of a field key, the name of a name key, and the
reading of a text key when the text reads as a name. -/
def name? : LookupKey → Option Name
  | .field f => some f.name
  | .name n => some n
  | .text t =>
    match Name.parse t with
    | .ok n => some n
    | .error _ => none
  | .index _ => none

/-- The text the simple tier compares simple names with: the simple name of the key's name,
or the text of a key that does not read as a name, taken as it is. -/
def simpleText : LookupKey → String
  | .field f => f.name.simple
  | .name n => n.simple
  | .text t =>
    match Name.parse t with
    | .ok n => n.simple
    | .error _ => t
  | .index _ => ""

/-- What a field must satisfy to be found for a key at a tier, under the collation `c`. -/
def Passes (c : Collation) (k : LookupKey) : MatchTier → Field → Prop
  | .identity, g => ∃ f, k = .field f ∧ g.id = f.id
  | .exact, g => ∃ n, k.name? = some n ∧ g.name.SameParts c n
  | .suffix, g => ∃ n, k.name? = some n ∧ g.name.AgreeFromRight c n
  | .simple, g => c.partEq g.simple k.simpleText = true
  | .position, _ => False

variable {c : Collation} {k : LookupKey}

/-- The exact tier of a key with name `n` is the code's `Name.equiv` test. -/
theorem passes_exact_iff {n : Name} (hn : k.name? = some n) (g : Field) :
    k.Passes c .exact g ↔ g.name.equiv n c = true := by
  simp [Passes, hn, Name.equiv_iff]

/-- The partial tier of a key with name `n` is the code's `Name.suffixEquiv` test. -/
theorem passes_suffix_iff {n : Name} (hn : k.name? = some n) (g : Field) :
    k.Passes c .suffix g ↔ g.name.suffixEquiv n c = true := by
  simp [Passes, hn, Name.suffixEquiv_iff]

/-- The simple tier of a key with simple text `t` compares simple names with `t`. -/
theorem passes_simple_iff {t : String} (hs : k.simpleText = t) (g : Field) :
    k.Passes c .simple g ↔ c.partEq g.simple t = true := by
  rw [← hs]
  rfl

/-- The identity tier of a field key is the code's test of identities. -/
theorem passes_identity_iff (f g : Field) :
    (LookupKey.field f).Passes c .identity g ↔ (g.id == f.id) = true := by
  simp [Passes]

end LookupKey

/-- The tiers a name runs after the exact one: partial for a name of two parts or more, then
simple. -/
def Name.laterTiers (n : Name) : List MatchTier :=
  if 2 ≤ n.parts.length then [.suffix, .simple] else [.simple]

/-- The tiers a key runs, in order: a field key starts with identity and goes on as its name,
a name key runs exact and the later tiers of the name, a text key runs the later tiers of its
reading, or only simple when it does not read. -/
def LookupKey.tiers : LookupKey → List MatchTier
  | .field f => .identity :: .exact :: f.name.laterTiers
  | .name n => .exact :: n.laterTiers
  | .text t =>
    match Name.parse t with
    | .ok n => n.laterTiers
    | .error _ => [.simple]
  | .index _ => []

/-- Declarative resolution: a position key finds its position when the schema has it; any
other key finds what the cascade of its tiers finds among the schema's fields. -/
def Schema.Resolves (s : Schema) (k : LookupKey) (r : Option Match) : Prop :=
  match k with
  | .index i => r = if i < s.degree then some ⟨i, .position⟩ else none
  | _ => Cascade s.fields (k.Passes s.collation) k.tiers r

/-! ## The code's tiers against the cascade -/

/-- `Option.or` is what a later tier does with the value of an earlier one. -/
theorem ite_isSome_eq_or {α : Type} (x y : Option α) : (if x.isSome then x else y) = x.or y := by
  cases x <;> rfl

/-- A name is qualified exactly when it has two parts or more. -/
theorem Name.isQualified_iff (n : Name) : n.isQualified = true ↔ 2 ≤ n.parts.length := by
  simp only [Name.isQualified, decide_eq_true_eq]
  omega

namespace Schema

/-- The simple tier finds the least position whose simple name matches. -/
theorem matchSimple_value (s : Schema) (k : LookupKey) (t : String) :
    (s.matchSimple k t).value =
      (s.fields.findIdx? fun f => s.collation.partEq f.simple t).map fun i => ⟨i, .simple⟩ :=
  firstMatch_value s k .simple _

/-- A name runs the exact tier when asked to, then partial when it is qualified, then simple;
each later tier only when the earlier ones found nothing. -/
theorem matchName_value (s : Schema) (k : LookupKey) (n : Name) (exact : Bool) :
    (s.matchName k n exact).value =
      ((if exact then s.fields.findIdx? (fun f => f.name.equiv n s.collation) else none).map
          fun i => ⟨i, .exact⟩).or
        ((if n.isQualified then
            (s.fields.findIdx? fun f => f.name.suffixEquiv n s.collation).map fun i => ⟨i, .suffix⟩
          else none).or (s.matchSimple k n.simple).value) := by
  unfold matchName
  cases hexact : (if exact then s.fields.findIdx? (fun f => f.name.equiv n s.collation) else none)
  · rw [Option.map_none, Option.none_or, apply_ite Traced.value]
    by_cases hq : n.isQualified
    · simp only [hq, if_true, firstMatch_value]
      exact ite_isSome_eq_or _ _
    · simp [hq]
  · rfl

/-- The simple tier, for a key whose simple text is `t`. -/
theorem cascade_matchSimple (s : Schema) {k : LookupKey} {t : String} (hs : k.simpleText = t) :
    Cascade s.fields (k.Passes s.collation) [.simple] (s.matchSimple k t).value := by
  rw [matchSimple_value]
  exact Cascade.single_findIdx? fun f => (LookupKey.passes_simple_iff hs f).symm

/-- The tiers after the exact one, for a key whose name is `n`. -/
theorem cascade_matchName_false (s : Schema) {k : LookupKey} {n : Name}
    (hn : k.name? = some n) (hs : k.simpleText = n.simple) :
    Cascade s.fields (k.Passes s.collation) n.laterTiers (s.matchName k n false).value := by
  have hsimple := cascade_matchSimple s hs
  rw [matchName_value, if_neg Bool.false_ne_true, Option.map_none, Option.none_or]
  unfold Name.laterTiers
  by_cases hq : 2 ≤ n.parts.length
  · rw [if_pos hq, if_pos ((Name.isQualified_iff n).2 hq)]
    exact Cascade.cons_findIdx? (fun f => (LookupKey.passes_suffix_iff hn f).symm) hsimple
  · have hq' : n.isQualified = false := by
      rw [← Bool.not_eq_true, Name.isQualified_iff]
      exact hq
    rw [if_neg hq, hq', if_neg Bool.false_ne_true, Option.none_or]
    exact hsimple

/-- All tiers of a name, for a key whose name is `n`. -/
theorem cascade_matchName_true (s : Schema) {k : LookupKey} {n : Name}
    (hn : k.name? = some n) (hs : k.simpleText = n.simple) :
    Cascade s.fields (k.Passes s.collation) (.exact :: n.laterTiers) (s.matchName k n true).value := by
  have hlater := cascade_matchName_false s hn hs
  rw [matchName_value] at hlater ⊢
  rw [if_neg Bool.false_ne_true, Option.map_none, Option.none_or] at hlater
  rw [if_pos rfl]
  exact Cascade.cons_findIdx? (fun f => (LookupKey.passes_exact_iff hn f).symm) hlater

/-- **`resolve` meets its specification.** -/
theorem resolves_resolve (s : Schema) (k : LookupKey) : s.Resolves k (s.resolve k).value := by
  cases k with
  | index i => rfl
  | field f =>
    -- the identity tier, then all tiers of the field's name
    have hvalue : (s.resolve (.field f)).value =
        ((s.fields.findIdx? fun g => g.id == f.id).map fun i => ⟨i, .identity⟩).or
          (s.matchName (.field f) f.name true).value := by
      dsimp only [resolve]
      cases s.fields.findIdx? fun g => g.id == f.id <;> rfl
    show Cascade s.fields _ (.identity :: .exact :: f.name.laterTiers) _
    rw [hvalue]
    exact Cascade.cons_findIdx? (fun g => (LookupKey.passes_identity_iff f g).symm)
      (cascade_matchName_true s rfl rfl)
  | name n => exact cascade_matchName_true s rfl rfl
  | text t =>
    show Cascade s.fields _ (match Name.parse t with | .ok n => n.laterTiers | .error _ => [.simple]) _
    dsimp only [resolve]
    cases hp : Name.parse t with
    | ok n =>
      dsimp only
      have hn : (LookupKey.text t).name? = some n := by simp [LookupKey.name?, hp]
      have hs : (LookupKey.text t).simpleText = n.simple := by simp [LookupKey.simpleText, hp]
      by_cases hq : n.isQualified
      · rw [if_pos hq]
        exact cascade_matchName_false s hn hs
      · rw [if_neg hq]
        have hlater : n.laterTiers = [.simple] :=
          if_neg (mt (Name.isQualified_iff n).2 hq)
        rw [hlater]
        exact cascade_matchSimple s hs
    | error e => exact cascade_matchSimple s (by simp [LookupKey.simpleText, hp])

end Schema

/-- A position a cascade finds is a position of the list. -/
theorem Cascade.index_lt {fs : List Field} {passes : MatchTier → Field → Prop}
    {ts : List MatchTier} {i : Nat} {t : MatchTier} (h : Cascade fs passes ts (some ⟨i, t⟩)) :
    i < fs.length := by
  generalize hr : (some ⟨i, t⟩ : Option Match) = r at h
  induction h with
  | exhausted => cases hr
  | found hi =>
    cases hr
    exact hi.1
  | next _ _ ih => exact ih hr

namespace Schema

/-- A key resolves declaratively to one outcome at most. -/
theorem Resolves.unique {s : Schema} {k : LookupKey} {r₁ r₂ : Option Match}
    (h₁ : s.Resolves k r₁) (h₂ : s.Resolves k r₂) : r₁ = r₂ := by
  cases k with
  | index i => exact h₁.trans h₂.symm
  | field f => exact Cascade.unique h₁ h₂
  | name n => exact Cascade.unique h₁ h₂
  | text t => exact Cascade.unique h₁ h₂

/-- A position a key resolves to is a position of the schema. -/
theorem Resolves.index_lt {s : Schema} {k : LookupKey} {m : Match} (h : s.Resolves k (some m)) :
    m.index < s.fields.length := by
  cases k with
  | index i =>
    change some m = if i < s.degree then some ⟨i, .position⟩ else none at h
    by_cases hi : i < s.degree
    · rw [if_pos hi, Option.some.injEq] at h
      rw [h]
      exact hi
    · rw [if_neg hi] at h
      cases h
  | field f => exact Cascade.index_lt h
  | name n => exact Cascade.index_lt h
  | text t => exact Cascade.index_lt h

/-- **Resolution is the declarative cascade.** For every schema and every key, `resolve`
returns `r` exactly when `Resolves` describes `r`: a position key finds its position when the
schema has it; a field key finds the least position with the field's identity, else what its
name finds; a name key finds the least position of a name with its parts (exact), else, when
it has two parts or more, the least position of a name agreeing with it from the right
(partial), else the least position with its simple name (simple), else nothing; a text key
runs partial and simple for a qualified reading, simple for a single part, and simple with the
text itself when it does not read. Every comparison is under the schema's collation. A
position that `resolve` returns holds a field, and it is the field `field` returns. -/
theorem resolve_eq_iff_resolves (s : Schema) (k : LookupKey) :
    (∀ r, (s.resolve k).value = r ↔ s.Resolves k r) ∧
      ∀ m, (s.resolve k).value = some m →
        ∃ h : m.index < s.fields.length, (s.field k).value = some s.fields[m.index] := by
  refine ⟨fun r => ⟨fun h => h ▸ resolves_resolve s k, (resolves_resolve s k).unique⟩, ?_⟩
  intro m hm
  have hlt : m.index < s.fields.length := Resolves.index_lt (hm ▸ resolves_resolve s k)
  refine ⟨hlt, ?_⟩
  simp [field, hm, fieldAt?, List.getElem?_eq_getElem hlt]

end Schema

end RecordSchema
