import RecordSchema.Proofs.Resolution
/-!
# Ambiguity events

A lookup reports an ambiguity when the partial or the simple tier finds more than one field:
it still returns the first, and hands an event to the schema's policy. This file says which
events one resolution reports:

* `Schema.Reports s k r` — at most one event; one exactly when `r` is a partial or simple
  match that at least two positions pass; and that event names the key as written, the tier,
  the chosen position and every passing position in increasing order (`ListsPositions`).
* `Schema.resolve_cases` — every resolution is either one run of the partial or the simple
  tier with the key's own test, or a result with no event that is not a partial or simple
  match. Identity, exact and position matches, and misses, report nothing; a tier that finds
  nothing falls through without an event.

The main statement is `Schema.resolve_reports`: `resolve` meets `Reports`, the lookups built
on it (`field`, `indexOf`, `typeOf`, `dataTypeOf`, `fieldAs`, `fieldAsDataType`) report
exactly its events, also when a coercion is refused, and `fieldsOf` reports the events of its
keys in their order.
-/

namespace RecordSchema

/-- `cs` lists, in increasing order, every position of `fs` whose field satisfies `p`. -/
def ListsPositions (fs : List Field) (p : Field → Prop) (cs : List Nat) : Prop :=
  cs.Pairwise (· < ·) ∧ ∀ j, j ∈ cs ↔ ∃ h : j < fs.length, p fs[j]

/-- At least two positions of `fs` hold fields satisfying `p`. -/
def TwoPass (fs : List Field) (p : Field → Prop) : Prop :=
  ∃ i j, ∃ (hi : i < fs.length) (hj : j < fs.length), i < j ∧ p fs[i] ∧ p fs[j]

/-- `findIdxs` lists the positions a Boolean test accepts. -/
theorem findIdxs_listsPositions {fs : List Field} {p : Field → Prop} {b : Field → Bool}
    (hb : ∀ f, b f = true ↔ p f) : ListsPositions fs p (fs.findIdxs b) := by
  refine ⟨List.pairwise_findIdxs, fun j => ?_⟩
  rw [List.mem_findIdxs_iff_exists_getElem_pos]
  exact exists_congr fun h => hb fs[j]

/-- A list of all passing positions has two entries or more exactly when two positions
pass. -/
theorem ListsPositions.two_le_length_iff {fs : List Field} {p : Field → Prop} {cs : List Nat}
    (h : ListsPositions fs p cs) : 2 ≤ cs.length ↔ TwoPass fs p := by
  obtain ⟨hsorted, hmem⟩ := h
  constructor
  · intro hlen
    rcases cs with _ | ⟨i, _ | ⟨j, rest⟩⟩
    · simp at hlen
    · simp at hlen
    · obtain ⟨hi, hpi⟩ := (hmem i).1 (by simp)
      obtain ⟨hj, hpj⟩ := (hmem j).1 (by simp)
      have hij : i < j := List.rel_of_pairwise_cons hsorted (by simp)
      exact ⟨i, j, hi, hj, hij, hpi, hpj⟩
  · rintro ⟨i, j, hi, hj, hij, hpi, hpj⟩
    have hmi := (hmem i).2 ⟨hi, hpi⟩
    have hmj := (hmem j).2 ⟨hj, hpj⟩
    rcases cs with _ | ⟨a, _ | ⟨b, rest⟩⟩
    · simp at hmi
    · simp only [List.mem_singleton] at hmi hmj
      omega
    · simp

namespace Schema

/-- The ambiguity events of resolving `k` in `s` to `r`, as they must be. -/
structure Reports (s : Schema) (k : LookupKey) (r : Traced (Option Match)) : Prop where
  /-- At most one event. -/
  length_le : r.events.length ≤ 1
  /-- An event exactly for a partial or simple match that two positions pass. -/
  ne_nil_iff : r.events ≠ [] ↔ ∃ m, r.value = some m ∧ (m.tier = .suffix ∨ m.tier = .simple) ∧
    TwoPass s.fields (k.Passes s.collation m.tier)
  /-- The event names the key as written and the match's tier and position, and lists every
  position passing that tier, the chosen one first. -/
  event : ∀ e ∈ r.events, r.value = some ⟨e.chosen, e.tier⟩ ∧ e.key = k.display ∧
    e.candidates.head? = some e.chosen ∧ 2 ≤ e.candidates.length ∧
    ListsPositions s.fields (k.Passes s.collation e.tier) e.candidates

/-- A tier reports one event, listing every candidate, when it has two candidates or more. -/
theorem firstMatch_events (s : Schema) (k : LookupKey) (t : MatchTier) (p : Field → Bool) :
    (s.firstMatch k t p).events =
      match s.fields.findIdxs p with
      | i :: j :: rest => [⟨k.display, t, i, i :: j :: rest⟩]
      | _ => [] := by
  unfold firstMatch
  rw [positionsWhere_eq_findIdxs]
  rcases s.fields.findIdxs p with _ | ⟨i, _ | ⟨j, rest⟩⟩ <;> rfl

/-- **One run of the partial or the simple tier reports as specified.** -/
theorem firstMatch_reports {s : Schema} {k : LookupKey} {t : MatchTier} {b : Field → Bool}
    (ht : t = .suffix ∨ t = .simple) (hb : ∀ f, b f = true ↔ k.Passes s.collation t f) :
    s.Reports k (s.firstMatch k t b) := by
  have hL : ListsPositions s.fields (k.Passes s.collation t) (s.fields.findIdxs b) :=
    findIdxs_listsPositions hb
  have hvalue : (s.firstMatch k t b).value = (s.fields.findIdxs b).head?.map fun i => ⟨i, t⟩ := by
    rw [firstMatch_value, head?_findIdxs]
    simp
  have hevents := firstMatch_events s k t b
  generalize s.fields.findIdxs b = cs at hL hvalue hevents
  rcases cs with _ | ⟨i, _ | ⟨j, rest⟩⟩
  · -- no candidate: no match and no event
    refine ⟨by simp [hevents], ?_, fun e he => by simp [hevents] at he⟩
    simp [hevents, hvalue]
  · -- one candidate: a match and no event
    refine ⟨by simp [hevents], ⟨fun h => absurd hevents h, ?_⟩, fun e he => by simp [hevents] at he⟩
    rintro ⟨m, hm, -, htwo⟩
    rw [hvalue] at hm
    cases hm
    have hlen := (hL.two_le_length_iff).2 htwo
    simp at hlen
  · -- several candidates: the first is chosen and one event lists them all
    have htwo := (hL.two_le_length_iff).1 (by simp)
    refine ⟨by simp [hevents], ⟨fun _ => ⟨⟨i, t⟩, hvalue, ht, htwo⟩, fun _ => by simp [hevents]⟩, ?_⟩
    intro e he
    rw [hevents, List.mem_singleton] at he
    subst he
    exact ⟨hvalue, rfl, rfl, by simp, hL⟩

/-- A result with no event that is not a partial or simple match reports as specified. -/
theorem reports_of_events_nil {s : Schema} {k : LookupKey} {r : Traced (Option Match)}
    (hnil : r.events = []) (htier : ∀ m, r.value = some m → m.tier ≠ .suffix ∧ m.tier ≠ .simple) :
    s.Reports k r := by
  refine ⟨by simp [hnil], ⟨fun h => absurd hnil h, ?_⟩, fun e he => by simp [hnil] at he⟩
  rintro ⟨m, hm, hsimple, -⟩
  obtain ⟨hs, hp⟩ := htier m hm
  rcases hsimple with h | h
  · exact absurd h hs
  · exact absurd h hp

/-- The two shapes a resolution can have: one run of the partial or the simple tier with the
key's test for it, or a result with no event that is not a partial or simple match. -/
def RunsOneTier (s : Schema) (k : LookupKey) (r : Traced (Option Match)) : Prop :=
  (∃ t b, (t = .suffix ∨ t = .simple) ∧ (∀ f, b f = true ↔ k.Passes s.collation t f) ∧
      r = s.firstMatch k t b) ∨
    (r.events = [] ∧ ∀ m, r.value = some m → m.tier ≠ .suffix ∧ m.tier ≠ .simple)

/-- Both shapes report as specified. -/
theorem RunsOneTier.reports {s : Schema} {k : LookupKey} {r : Traced (Option Match)}
    (h : s.RunsOneTier k r) : s.Reports k r := by
  rcases h with ⟨t, b, ht, hb, rfl⟩ | ⟨hnil, htier⟩
  · exact firstMatch_reports ht hb
  · exact reports_of_events_nil hnil htier

/-- The simple tier for a key with simple text `t` has the first shape. -/
theorem runsOneTier_matchSimple (s : Schema) {k : LookupKey} {t : String}
    (hs : k.simpleText = t) : s.RunsOneTier k (s.matchSimple k t) :=
  .inl ⟨.simple, _, .inr rfl, fun f => (LookupKey.passes_simple_iff hs f).symm, rfl⟩

/-- The tiers of a name: an exact match reports nothing; otherwise the result is the run of
the partial tier when that finds a field, else the run of the simple tier. -/
theorem runsOneTier_matchName (s : Schema) {k : LookupKey} {n : Name} (hn : k.name? = some n)
    (hs : k.simpleText = n.simple) (exact : Bool) : s.RunsOneTier k (s.matchName k n exact) := by
  unfold matchName
  cases hexact : (if exact then s.fields.findIdx? (fun f => f.name.equiv n s.collation) else none)
    with
  | some i =>
    refine .inr ⟨rfl, fun m hm => ?_⟩
    cases hm
    exact ⟨by simp, by simp⟩
  | none =>
    dsimp only
    by_cases hq : n.isQualified
    · -- the partial tier stands when it finds a field, else the simple tier runs
      rw [if_pos hq]
      split
      · exact .inl ⟨.suffix, _, .inl rfl, fun f => (LookupKey.passes_suffix_iff hn f).symm, rfl⟩
      · exact runsOneTier_matchSimple s hs
    · rw [if_neg hq]
      exact runsOneTier_matchSimple s hs

/-- **Every resolution has one of the two shapes.** -/
theorem resolve_cases (s : Schema) (k : LookupKey) : s.RunsOneTier k (s.resolve k) := by
  cases k with
  | index i =>
    refine .inr ⟨rfl, fun m hm => ?_⟩
    change (if i < s.degree then some ⟨i, .position⟩ else none) = some m at hm
    split at hm
    · cases hm
      exact ⟨by simp, by simp⟩
    · cases hm
  | field f =>
    dsimp only [resolve]
    split
    · refine .inr ⟨rfl, fun m hm => ?_⟩
      cases hm
      exact ⟨by simp, by simp⟩
    · exact runsOneTier_matchName s rfl rfl true
  | name n => exact runsOneTier_matchName s rfl rfl true
  | text t =>
    dsimp only [resolve]
    cases hp : Name.parse t with
    | ok n =>
      have hn : (LookupKey.text t).name? = some n := by simp [LookupKey.name?, hp]
      have hs : (LookupKey.text t).simpleText = n.simple := by simp [LookupKey.simpleText, hp]
      dsimp only
      split
      · exact runsOneTier_matchName s hn hs false
      · exact runsOneTier_matchSimple s hs
    | error e => exact runsOneTier_matchSimple s (by simp [LookupKey.simpleText, hp])

/-- The fields of several keys report the events of each key, in the order of the keys. -/
theorem fieldsOf_events (s : Schema) (ks : List LookupKey) :
    (s.fieldsOf ks).events = ks.flatMap fun k => (s.resolve k).events := by
  induction ks with
  | nil => rfl
  | cons k ks ih =>
    rw [List.flatMap_cons, ← ih]
    rfl

/-- **Ambiguity events.** Resolving a key reports at most one event, and one exactly when the
result is a partial or simple match that at least two positions pass; that event names the
key as written, the tier and the chosen position, and lists every position passing the tier
in increasing order, the chosen one first. Each lookup built on resolution reports exactly
its events, a refused coercion included, and the fields of several keys report the events of
each key in turn. -/
theorem resolve_reports (s : Schema) :
    (∀ k, s.Reports k (s.resolve k) ∧
      (s.field k).events = (s.resolve k).events ∧ (s.indexOf k).events = (s.resolve k).events ∧
      (s.typeOf k).events = (s.resolve k).events ∧
      (s.dataTypeOf k).events = (s.resolve k).events ∧
      (∀ t, (s.fieldAs k t).events = (s.resolve k).events) ∧
      (∀ d, (s.fieldAsDataType k d).events = (s.resolve k).events)) ∧
    ∀ ks, (s.fieldsOf ks).events = ks.flatMap fun k => (s.resolve k).events :=
  ⟨fun k => ⟨(resolve_cases s k).reports, rfl, rfl, rfl, rfl, fun _ => rfl, fun _ => rfl⟩,
    fieldsOf_events s⟩

end Schema

end RecordSchema
