import Mathlib.Logic.Equiv.Fin.Basic
import RecordSchema.Proofs.Ambiguity
import RecordSchema.Proofs.Handles
/-!
# Reordering the fields of a schema

Resolution looks for fields by their identity and their names, never by where they stand,
except that each tier takes its least candidate. So putting the fields of a schema in another
order changes which field a key finds only where several fields tie at the winning tier.

* `Reorders fs fs' σ` — the permutation `σ` of positions moves the fields of `fs` to those of
  `fs'`: the field of `fs'` at `σ p` is the field of `fs` at `p`;
* `Reorders.twoPass`, `Reorders.isFirstPos_eq`, `Reorders.listsPositions` — a reordering keeps
  whether two fields pass a test, sends the only passing position to the only passing
  position, and moves the list of passing positions by `σ`;
* `Cascade.reorder` — tiers tried in order over a reordered list stop at the same tier;
* `Schema.resolve_reorder` — the main statement: the same tier, the same field when it is the
  only one passing that tier, and the same ambiguity events up to `σ`.
-/

namespace RecordSchema

/-- `σ` moves the fields of `fs` to the positions of `fs'`: the field of `fs'` at `σ p` is the
field of `fs` at `p`. -/
def Reorders (fs fs' : List Field) (σ : Fin fs.length ≃ Fin fs'.length) : Prop :=
  ∀ p, fs'[σ p] = fs[p]

instance (fs fs' : List Field) (σ : Fin fs.length ≃ Fin fs'.length) :
    Decidable (Reorders fs fs' σ) :=
  inferInstanceAs (Decidable (∀ p, fs'[σ p] = fs[p]))

namespace Reorders

variable {fs fs' : List Field} {σ : Fin fs.length ≃ Fin fs'.length}

/-- The inverse moves the fields back. -/
theorem symm (h : Reorders fs fs' σ) : Reorders fs' fs σ.symm := fun q => by
  have hq := h (σ.symm q)
  simp only [Equiv.apply_symm_apply] at hq
  exact hq.symm

/-- The field at the position `σ` moves `p` to, read with a plain index. -/
theorem getElem_apply (h : Reorders fs fs' σ) (p : Fin fs.length) :
    fs'[(σ p : Nat)] = fs[(p : Nat)] := by
  simpa only [Fin.getElem_fin] using h p

/-- A field of one list is a field of the reordering. -/
theorem mem (h : Reorders fs fs' σ) {f : Field} (hf : f ∈ fs) : f ∈ fs' := by
  obtain ⟨p, hp, rfl⟩ := List.getElem_of_mem hf
  rw [← h.getElem_apply ⟨p, hp⟩]
  exact List.getElem_mem _

/-- Two positions passing a test in one list give two in the reordering. -/
theorem twoPass (h : Reorders fs fs' σ) {P : Field → Prop} (htwo : TwoPass fs P) :
    TwoPass fs' P := by
  obtain ⟨i, j, hi, hj, hij, hpi, hpj⟩ := htwo
  -- `σ` sends the two positions to two distinct ones, in one order or the other
  have hne : (σ ⟨i, hi⟩ : Nat) ≠ σ ⟨j, hj⟩ := fun he => by
    have := σ.injective (Fin.ext he)
    simp only [Fin.mk.injEq] at this
    omega
  have hpi' : P fs'[(σ ⟨i, hi⟩ : Nat)] := by rwa [h.getElem_apply]
  have hpj' : P fs'[(σ ⟨j, hj⟩ : Nat)] := by rwa [h.getElem_apply]
  rcases Nat.lt_or_gt_of_ne hne with hlt | hlt
  · exact ⟨_, _, _, _, hlt, hpi', hpj'⟩
  · exact ⟨_, _, _, _, hlt, hpj', hpi'⟩

/-- When `p` is the only position of `fs` whose field passes a test, the least position of the
reordering whose field passes it is where `σ` moves `p`. -/
theorem isFirstPos_eq (h : Reorders fs fs' σ) {P : Field → Prop} {p : Fin fs.length}
    (honly : ∀ q : Fin fs.length, P fs[q] ↔ q = p) {i : Nat} (hi : IsFirstPos fs' P i) :
    i = σ p := by
  obtain ⟨hlt, hpi, -⟩ := hi
  -- the field at `i` came from `σ.symm i`, which can only be `p`
  have hback : σ.symm ⟨i, hlt⟩ = p := by
    refine (honly _).1 ?_
    rw [h.symm ⟨i, hlt⟩]
    exact hpi
  rw [← hback, Equiv.apply_symm_apply]

/-- Lists of every passing position, in a list and in its reordering, are related by `σ`. -/
theorem listsPositions (h : Reorders fs fs' σ) {P : Field → Prop} {cs cs' : List Nat}
    (hcs : ListsPositions fs P cs) (hcs' : ListsPositions fs' P cs') (j : Nat) :
    j ∈ cs' ↔ ∃ p : Fin fs.length, (p : Nat) ∈ cs ∧ (σ p : Nat) = j := by
  rw [hcs'.2 j]
  constructor
  · rintro ⟨hj, hp⟩
    refine ⟨σ.symm ⟨j, hj⟩, (hcs.2 _).2 ⟨(σ.symm ⟨j, hj⟩).2, ?_⟩, by simp⟩
    rw [← Fin.getElem_fin, h.symm ⟨j, hj⟩]
    exact hp
  · rintro ⟨p, hp, rfl⟩
    obtain ⟨_, hpass⟩ := (hcs.2 p).1 hp
    exact ⟨(σ p).2, by rwa [h.getElem_apply]⟩

end Reorders

/-- **Reordering keeps the tier.** Cascades over the same tiers with the same tests, in a list
of fields and in a reordering of it, stop at the same tier, or both find nothing: whether some
field passes a tier does not depend on where it stands. -/
theorem Cascade.reorder {fs fs' : List Field} {σ : Fin fs.length ≃ Fin fs'.length}
    (h : Reorders fs fs' σ) {passes : MatchTier → Field → Prop} {ts : List MatchTier}
    {r r' : Option Match} (hc : Cascade fs passes ts r) (hc' : Cascade fs' passes ts r') :
    r.map (·.tier) = r'.map (·.tier) := by
  -- induction on the first cascade, taking the second apart at the same tier
  induction hc generalizing r' with
  | exhausted =>
    cases hc'
    rfl
  | found hi =>
    cases hc' with
    | found _ => rfl
    | next hnone _ =>
      obtain ⟨f, hf, hp⟩ := hi.exists_mem
      exact absurd hp (hnone f (h.mem hf))
  | next hnone _ ih =>
    cases hc' with
    | found hj =>
      obtain ⟨f, hf, hp⟩ := hj.exists_mem
      exact absurd hp (hnone f (h.symm.mem hf))
    | next _ hrest' => exact ih hrest'

namespace Schema

/-- A key other than a position resolves by the cascade of its tiers. -/
theorem cascade_resolve (s : Schema) {k : LookupKey} (hk : ∀ i, k ≠ .index i) :
    Cascade s.fields (k.Passes s.collation) k.tiers (s.resolve k).value := by
  have h := resolves_resolve s k
  cases k with
  | index i => exact absurd rfl (hk i)
  | field f => exact h
  | name n => exact h
  | text t => exact h

section Reorder

variable {s s' : Schema} {σ : Fin s.fields.length ≃ Fin s'.fields.length}
  (hσ : Reorders s.fields s'.fields σ) (hc : s'.collation = s.collation)
include hσ hc

/-- A key resolves at the same tier in a schema and in a reordering of it, or in neither. -/
theorem resolve_tier_reorder (k : LookupKey) :
    (s.resolve k).value.map (·.tier) = (s'.resolve k).value.map (·.tier) := by
  by_cases hk : ∃ i, k = .index i
  · obtain ⟨i, rfl⟩ := hk
    -- a position key reads the number of fields only, which a permutation keeps
    have hdeg : s'.degree = s.degree := (Fin.equiv_iff_eq.1 ⟨σ⟩).symm
    simp only [resolve, hdeg]
  · have hk' : ∀ i, k ≠ .index i := fun i he => hk ⟨i, he⟩
    have hnew := s'.cascade_resolve hk'
    rw [hc] at hnew
    exact Cascade.reorder hσ (s.cascade_resolve hk') hnew

/-- A match in a schema has a match at the same tier in the reordering. -/
theorem exists_tier_reorder (k : LookupKey) {m : Match} (hm : (s.resolve k).value = some m) :
    ∃ m', (s'.resolve k).value = some m' ∧ m'.tier = m.tier := by
  have h := resolve_tier_reorder hσ hc k
  rw [hm] at h
  cases hv : (s'.resolve k).value with
  | none =>
    rw [hv] at h
    cases h
  | some m' =>
    rw [hv] at h
    exact ⟨m', rfl, (Option.some.inj h).symm⟩

/-- When exactly one field passes the tier a key resolves at, the reordering finds that field,
where `σ` moved it. -/
theorem resolve_reorder_of_unique (k : LookupKey) {m : Match} (hm : (s.resolve k).value = some m)
    {p : Fin s.fields.length}
    (honly : ∀ q : Fin s.fields.length, k.Passes s.collation m.tier s.fields[q] ↔ q = p) :
    (s'.resolve k).value = some ⟨σ p, m.tier⟩ := by
  by_cases hk : ∃ i, k = .index i
  · -- no field passes the position tier, so no position is the only one to
    obtain ⟨i, rfl⟩ := hk
    simp only [resolve] at hm
    split at hm
    · cases hm
      exact (show False from (honly p).2 rfl).elim
    · cases hm
  · have hk' : ∀ i, k ≠ .index i := fun i he => hk ⟨i, he⟩
    obtain ⟨⟨i, t⟩, hm', htier⟩ := exists_tier_reorder hσ hc k hm
    have hnew := s'.cascade_resolve hk'
    rw [hm', hc] at hnew
    have hfirst := Cascade.isFirstPos hnew
    dsimp only at htier
    rw [htier] at hfirst
    rw [hm', hσ.isFirstPos_eq honly hfirst, htier]

/-- A schema reports an ambiguity for a key when its reordering does: two fields pass the tier
of the match in both. -/
theorem events_ne_nil_reorder (k : LookupKey) (he : (s.resolve k).events ≠ []) :
    (s'.resolve k).events ≠ [] := by
  obtain ⟨m, hm, hkind, htwo⟩ := (resolve_cases s k).reports.ne_nil_iff.1 he
  obtain ⟨m', hm', htier⟩ := exists_tier_reorder hσ hc k hm
  refine (resolve_cases s' k).reports.ne_nil_iff.2 ⟨m', hm', htier ▸ hkind, ?_⟩
  rw [hc, htier]
  exact hσ.twoPass htwo

/-- The ambiguity events of a schema and of its reordering name the same key and tier, and
`σ` moves the candidates of one to the candidates of the other. -/
theorem candidates_reorder (k : LookupKey) {e e' : AmbiguousMatch}
    (he : e ∈ (s.resolve k).events) (he' : e' ∈ (s'.resolve k).events) :
    e'.key = e.key ∧ e'.tier = e.tier ∧
      ∀ j, j ∈ e'.candidates ↔
        ∃ p : Fin s.fields.length, (p : Nat) ∈ e.candidates ∧ (σ p : Nat) = j := by
  obtain ⟨hv, hkey, -, -, hlist⟩ := (resolve_cases s k).reports.event e he
  obtain ⟨hv', hkey', -, -, hlist'⟩ := (resolve_cases s' k).reports.event e' he'
  -- each event has the tier of its match, and the matches have one tier
  have htier : e'.tier = e.tier := by
    have h := resolve_tier_reorder hσ hc k
    rw [hv, hv'] at h
    simpa using h.symm
  rw [hc, htier] at hlist'
  exact ⟨hkey'.trans hkey.symm, htier, hσ.listsPositions hlist hlist'⟩

end Reorder

/-- **Column order matters only through ties.** Let `s'` hold the fields of `s` moved by a
permutation `σ` of the positions, under the same collation. Every key resolves in both at one
tier, or in neither; when exactly one position `p` of `s` passes that tier, `s'` finds the same
field, at `σ p`; and `s` reports an ambiguity exactly when `s'` does, for the same key and tier,
the candidates of `s'` being the positions `σ` moves the candidates of `s` to. -/
theorem resolve_reorder (s s' : Schema) (σ : Fin s.fields.length ≃ Fin s'.fields.length)
    (hσ : Reorders s.fields s'.fields σ) (hc : s'.collation = s.collation) (k : LookupKey) :
    (s.resolve k).value.map (·.tier) = (s'.resolve k).value.map (·.tier) ∧
      (∀ m, (s.resolve k).value = some m → ∀ p : Fin s.fields.length,
        (∀ q : Fin s.fields.length, k.Passes s.collation m.tier s.fields[q] ↔ q = p) →
          (s'.resolve k).value = some ⟨σ p, m.tier⟩) ∧
      ((s.resolve k).events ≠ [] ↔ (s'.resolve k).events ≠ []) ∧
      ∀ e ∈ (s.resolve k).events, ∀ e' ∈ (s'.resolve k).events,
        e'.key = e.key ∧ e'.tier = e.tier ∧
          ∀ j, j ∈ e'.candidates ↔
            ∃ p : Fin s.fields.length, (p : Nat) ∈ e.candidates ∧ (σ p : Nat) = j :=
  ⟨resolve_tier_reorder hσ hc k, fun _ hm _ honly => resolve_reorder_of_unique hσ hc k hm honly,
    ⟨events_ne_nil_reorder hσ hc k, events_ne_nil_reorder hσ.symm hc.symm k⟩,
    fun _ he _ he' => candidates_reorder hσ hc k he he'⟩

/-- Swapping the first and the last of the fields `x.a`, `y.a`, `b` keeps every resolution's
tier; the text `a`, which two fields share at the simple tier, is ambiguous in both orders and
finds `x.a` in one and `y.a` in the other. -/
theorem swapped_ends_resolve_alike :
    let xa : Field :=
      ⟨⟨0⟩, ⟨["x", "a"], by simp, by simp⟩, .int, { sqlType := .integer }⟩
    let ya : Field :=
      ⟨⟨1⟩, ⟨["y", "a"], by simp, by simp⟩, .int, { sqlType := .integer }⟩
    let b : Field := ⟨⟨2⟩, ⟨["b"], by simp, by simp⟩, .int, { sqlType := .integer }⟩
    let s : Schema := { fields := [xa, ya, b] }
    let s' : Schema := { fields := [b, ya, xa] }
    let σ : Fin s.fields.length ≃ Fin s'.fields.length := Equiv.swap (0 : Fin 3) 2
    let k : LookupKey := .text "a"
    Reorders s.fields s'.fields σ ∧ s'.collation = s.collation ∧
      (s.field k).value = some xa ∧ (s'.field k).value = some ya ∧
      ((s.resolve k).value.map (·.tier) = (s'.resolve k).value.map (·.tier) ∧
        (∀ m, (s.resolve k).value = some m → ∀ p : Fin s.fields.length,
          (∀ q : Fin s.fields.length, k.Passes s.collation m.tier s.fields[q] ↔ q = p) →
            (s'.resolve k).value = some ⟨σ p, m.tier⟩) ∧
        ((s.resolve k).events ≠ [] ↔ (s'.resolve k).events ≠ []) ∧
        ∀ e ∈ (s.resolve k).events, ∀ e' ∈ (s'.resolve k).events,
          e'.key = e.key ∧ e'.tier = e.tier ∧
            ∀ j, j ∈ e'.candidates ↔
              ∃ p : Fin s.fields.length, (p : Nat) ∈ e.candidates ∧ (σ p : Nat) = j) := by
  intro xa ya b s s' σ k
  have hσ : Reorders s.fields s'.fields σ := by decide
  exact ⟨hσ, rfl, by decide, by decide, resolve_reorder s s' σ hσ rfl k⟩

end Schema

end RecordSchema
