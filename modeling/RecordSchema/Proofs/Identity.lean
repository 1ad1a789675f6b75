import Mathlib.Data.List.Nodup
import RecordSchema.Definition.Basic
/-!
# Field identities

An identity is handed out once, by an `IdSource`, when a field is created; copies and
coercions of a field keep it together with the name. This file proves what that gives for
lists of fields:

* `IdsCoherent src fs` — every identity in `fs` was handed out by `src` already, and fields
  of `fs` with one identity have one name;
* `Field.Twin f fs` — `f` carries the identity and the name of a field of `fs`, as copies and
  coercions do (`Field.coerceTo_twin`, `Field.coerceToDataType_twin`);
* the coherence is kept by adding a twin (`IdsCoherent.cons_twin`), a field with a fresh
  identity (`IdsCoherent.cons_fresh`) or a block of fields with consecutive fresh identities
  (`IdsCoherent.append_consecutive`);
* `ColumnDefinition.toFields_ids` and `Schema.fieldsOfColumns_ids` — the columns of a
  definition or of a column list get consecutive fresh identities, so pairwise distinct ones
  (`nodup_ids_of_consecutive`).
-/

namespace RecordSchema

namespace Field

/-- `f` carries the identity and the name of a field of `fs`. -/
def Twin (f : Field) (fs : List Field) : Prop :=
  ∃ g ∈ fs, g.id = f.id ∧ g.name = f.name

/-- A field of a list is its own twin there. -/
theorem Twin.of_mem {f : Field} {fs : List Field} (h : f ∈ fs) : f.Twin fs :=
  ⟨f, h, rfl, rfl⟩

/-- A twin in a list is a twin in every larger list. -/
theorem Twin.mono {f : Field} {fs gs : List Field} (h : f.Twin fs) (hsub : fs ⊆ gs) :
    f.Twin gs := by
  obtain ⟨g, hg, hid, hname⟩ := h
  exact ⟨g, hsub hg, hid, hname⟩

/-- A field with the identity and the name of a twin is a twin. -/
theorem Twin.of_same {f g : Field} {fs : List Field} (hfg : f.id = g.id ∧ f.name = g.name)
    (hg : g.Twin fs) : f.Twin fs := by
  obtain ⟨h, hh, hid, hname⟩ := hg
  exact ⟨h, hh, hid.trans hfg.1.symm, hname.trans hfg.2.symm⟩

/-- A new field gets the next identity of the source and the name it is given. -/
theorem create_id (src : IdSource) (n : Name) (vt : ValueType) (dt : DataType) :
    (create src n vt dt).1.id.val = src.next ∧ (create src n vt dt).1.name = n ∧
      (create src n vt dt).2.next = src.next + 1 :=
  ⟨rfl, rfl, rfl⟩

/-- Coercion to a value type keeps the identity and the name. -/
theorem coerceTo_twin {f g : Field} {t : ValueType} (h : f.coerceTo t = .ok g) :
    g.id = f.id ∧ g.name = f.name := by
  unfold coerceTo at h
  split at h
  · cases h
    exact ⟨rfl, rfl⟩
  · split at h
    · cases h
    · cases h
      exact ⟨rfl, rfl⟩

/-- Coercion to a data type keeps the identity and the name. -/
theorem coerceToDataType_twin {f g : Field} {d : DataType} (h : f.coerceToDataType d = .ok g) :
    g.id = f.id ∧ g.name = f.name := by
  unfold coerceToDataType at h
  split at h
  · cases h
  · cases h
    exact ⟨rfl, rfl⟩

end Field

/-- Every identity in `fs` was handed out by `src` already, and fields of `fs` with one
identity have one name. -/
structure IdsCoherent (src : IdSource) (fs : List Field) : Prop where
  lt_next : ∀ f ∈ fs, f.id.val < src.next
  name_eq : ∀ f ∈ fs, ∀ g ∈ fs, f.id = g.id → f.name = g.name

namespace IdsCoherent

variable {src src' : IdSource} {fs : List Field}

/-- No field, no conflict. -/
theorem nil (src : IdSource) : IdsCoherent src [] :=
  ⟨fun _ h => absurd h List.not_mem_nil, fun _ h => absurd h List.not_mem_nil⟩

/-- A source that has handed out more keeps the coherence. -/
theorem mono (h : IdsCoherent src fs) (hle : src.next ≤ src'.next) : IdsCoherent src' fs :=
  ⟨fun f hf => Nat.lt_of_lt_of_le (h.lt_next f hf) hle, h.name_eq⟩

/-- Fewer fields keep the coherence. -/
theorem subset {gs : List Field} (h : IdsCoherent src fs) (hsub : gs ⊆ fs) :
    IdsCoherent src gs :=
  ⟨fun f hf => h.lt_next f (hsub hf), fun f hf g hg => h.name_eq f (hsub hf) g (hsub hg)⟩

/-- Adding a field keeps the coherence when the source had handed out its identity and every
field of `fs` with that identity has its name. -/
theorem cons {f : Field} (h : IdsCoherent src fs) (hlt : f.id.val < src.next)
    (hsame : ∀ x ∈ fs, x.id = f.id → x.name = f.name) : IdsCoherent src (f :: fs) := by
  constructor
  · intro x hx
    rcases List.mem_cons.1 hx with rfl | hx
    · exact hlt
    · exact h.lt_next x hx
  · intro x hx y hy hxy
    rcases List.mem_cons.1 hx with rfl | hx' <;> rcases List.mem_cons.1 hy with rfl | hy'
    · rfl
    · exact (hsame y hy' hxy.symm).symm
    · exact hsame x hx' hxy
    · exact h.name_eq x hx' y hy' hxy

/-- **A copy.** Adding the twin of a field keeps the coherence. -/
theorem cons_twin {f : Field} (h : IdsCoherent src fs) (ht : f.Twin fs) :
    IdsCoherent src (f :: fs) := by
  obtain ⟨g, hg, hid, hname⟩ := ht
  -- every field with `f`'s identity has `g`'s identity, hence `g`'s name, which is `f`'s
  refine h.cons (hid ▸ h.lt_next g hg) fun x hx hx' => ?_
  exact (h.name_eq x hx g hg (hx'.trans hid.symm)).trans hname

/-- **A new field.** Adding a field whose identity the source had not handed out, to a source
that has handed it out since, keeps the coherence. -/
theorem cons_fresh {f : Field} (h : IdsCoherent src fs) (hfresh : src.next ≤ f.id.val)
    (hlt : f.id.val < src'.next) : IdsCoherent src' (f :: fs) := by
  -- no field of `fs` has `f`'s identity
  refine (h.mono (by omega)).cons hlt fun x hx hx' => ?_
  have := h.lt_next x hx
  rw [hx'] at this
  omega

end IdsCoherent

/-- Fields with consecutive identities have pairwise distinct ones. -/
theorem nodup_ids_of_consecutive {fs : List Field} {k : Nat}
    (h : fs.map (fun f => f.id.val) = List.range' k fs.length) : (fs.map Field.id).Nodup := by
  have hval : ((fs.map Field.id).map FieldId.val).Nodup := by
    rw [List.map_map]
    exact h ▸ List.nodup_range' 1
  exact hval.of_map FieldId.val

/-- **A block of new fields.** Adding fields with consecutive identities from the next one of
the source, to the source after them, keeps the coherence. -/
theorem IdsCoherent.append_consecutive {src src' : IdSource} {old fs : List Field}
    (h : IdsCoherent src old) (hids : fs.map (fun f => f.id.val) = List.range' src.next fs.length)
    (hnext : src'.next = src.next + fs.length) : IdsCoherent src' (fs ++ old) := by
  -- the identities of the block lie between the two sources
  have hrange : ∀ f ∈ fs, src.next ≤ f.id.val ∧ f.id.val < src'.next := by
    intro f hf
    have hmem : f.id.val ∈ List.range' src.next fs.length := hids ▸ List.mem_map_of_mem hf
    rw [List.mem_range'_1] at hmem
    omega
  have hinj := List.inj_on_of_nodup_map (nodup_ids_of_consecutive hids)
  constructor
  · intro f hf
    rcases List.mem_append.1 hf with hf | hf
    · exact (hrange f hf).2
    · have := h.lt_next f hf
      omega
  · intro f hf g hg hfg
    rcases List.mem_append.1 hf with hf | hf <;> rcases List.mem_append.1 hg with hg | hg
    · rw [hinj hf hg hfg]
    · have := h.lt_next g hg
      have := (hrange f hf).1
      rw [hfg] at *
      omega
    · have := h.lt_next f hf
      have := (hrange g hg).1
      rw [hfg] at *
      omega
    · exact h.name_eq f hf g hg hfg

/-- **The columns of a definition get consecutive new identities**, one per column, from the
next one of the source. -/
theorem ColumnDefinition.toFields_ids (src : IdSource) :
    ∀ cs : List ColumnDefinition,
      (toFields src cs).1.map (fun f => f.id.val) = List.range' src.next (toFields src cs).1.length ∧
        (toFields src cs).2.next = src.next + (toFields src cs).1.length
  | [] => ⟨rfl, rfl⟩
  | c :: cs => by
    obtain ⟨hids, hnext⟩ := toFields_ids (c.toField src).2 cs
    simp only [toFields, List.map_cons, List.length_cons, List.range'_succ]
    refine ⟨?_, ?_⟩
    · rw [hids]
      rfl
    · rw [hnext]
      show src.next + 1 + _ = _
      omega

/-- **The columns of a column list get consecutive new identities**, one per column, from the
next one of the source. -/
theorem Schema.fieldsOfColumns_ids {src : IdSource} {index : Nat}
    {cols : List (List String × ValueType × DataType)} {fs : List Field} {src' : IdSource}
    (h : fieldsOfColumns src index cols = .ok (fs, src')) :
    fs.map (fun f => f.id.val) = List.range' src.next fs.length ∧
      src'.next = src.next + fs.length := by
  fun_induction fieldsOfColumns src index cols generalizing fs src' with
  | case1 =>
    cases h
    exact ⟨rfl, rfl⟩
  | case2 => cases h
  | case3 src index parts vt dt rest n _ f src₁ hcreate gs src₂ hrest ih =>
    cases h
    obtain ⟨hids, hnext⟩ := ih hrest
    have hf := Field.create_id src n vt dt
    rw [hcreate] at hf
    obtain ⟨hid, -, hsrc₁⟩ := hf
    simp only [List.map_cons, List.length_cons, List.range'_succ]
    refine ⟨?_, ?_⟩
    · rw [hids, hid, hsrc₁]
    · rw [hnext, hsrc₁]
      omega
  | case4 => cases h

end RecordSchema
