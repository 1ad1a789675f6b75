import RecordSchema.Session
import RecordSchema.Proofs.Identity
/-!
# Field identities across a session

A session creates fields in many places: definitions and column lists, new and declared
builder columns, foreign keys. It copies and coerces fields in others: reused builder columns,
cloned schemas, coerced lookups. This file proves that over every run

* `Session.Coherent` holds: every identity the session holds or has numbered was handed out
  by its source, and fields with one identity have one name;
* a step adds only fields that are twins of fields held before or carry identities that no
  field held before and no numbered identity has, pairwise distinct ones
  (`Session.Advances.origin`, `Session.Advances.new_ids_nodup`);
* every field an answer shows is the twin of a field the session holds (`Session.run_spec`,
  `Session.after_spec`).

The steps are taken apart once each: `HandsOut` is what creating and numbering fields does
without adding a schema, `Gathered` what collecting the columns of a new schema does, and
`Advances` what a whole step does. The main statement is `Session.after_fieldIds`.
-/

namespace RecordSchema

/-- A computation in `Except` succeeds after a bind exactly when both parts do. -/
theorem except_bind_eq_ok {ε α β : Type} {x : Except ε α} {f : α → Except ε β} {b : β} :
    (x >>= f) = .ok b ↔ ∃ a, x = .ok a ∧ f a = .ok b := by
  cases x <;> simp [bind, Except.bind]

/-- A mapped computation in `Except` succeeds exactly when the computation does. -/
theorem except_map_eq_ok {ε α β : Type} {x : Except ε α} {f : α → β} {b : β} :
    x.map f = .ok b ↔ ∃ a, x = .ok a ∧ f a = b := by
  cases x <;> simp [Except.map]

/-- The fields an answer shows. -/
def Answer.shownFields : Answer → List Field
  | .added _ v => v.fields.map (·.field)
  | .described v => v.fields.map (·.field)
  | .fieldAt f => f.toList.map (·.field)
  | .field f _ => f.toList.map (·.field)
  | .fields fs _ => fs.map (·.field)
  | _ => []

namespace Schema

/-- The field a reference resolves to is a field of the schema. -/
theorem mem_of_field {s : Schema} {k : LookupKey} {f : Field} (h : (s.field k).value = some f) :
    f ∈ s.fields := by
  obtain ⟨m, -, hm⟩ := Option.bind_eq_some_iff.1 h
  exact List.mem_of_getElem? hm

/-- A lookup read as a value type answers with the twin of a field of the schema. -/
theorem twin_of_fieldAs {s : Schema} {k : LookupKey} {t : ValueType} {g : Field}
    (h : (s.fieldAs k t).value = .ok (some g)) : g.Twin s.fields := by
  cases hf : (s.field k).value with
  | none => simp [fieldAs, hf] at h
  | some f =>
    simp only [fieldAs, hf] at h
    obtain ⟨g', hg', hsome⟩ := except_map_eq_ok.1 h
    cases hsome
    exact Field.Twin.of_same (Field.coerceTo_twin hg') (Field.Twin.of_mem (mem_of_field hf))

/-- A lookup read as a data type answers with the twin of a field of the schema. -/
theorem twin_of_fieldAsDataType {s : Schema} {k : LookupKey} {d : DataType} {g : Field}
    (h : (s.fieldAsDataType k d).value = .ok (some g)) : g.Twin s.fields := by
  cases hf : (s.field k).value with
  | none => simp [fieldAsDataType, hf] at h
  | some f =>
    simp only [fieldAsDataType, hf] at h
    obtain ⟨g', hg', hsome⟩ := except_map_eq_ok.1 h
    cases hsome
    exact Field.Twin.of_same (Field.coerceToDataType_twin hg') (Field.Twin.of_mem (mem_of_field hf))

/-- The fields a list of references resolve to are fields of the schema. -/
theorem fieldsOf_subset (s : Schema) : ∀ ks : List LookupKey, (s.fieldsOf ks).value ⊆ s.fields
  | [] => List.nil_subset _
  | k :: ks => by
    refine List.append_subset.2 ⟨fun f hf => ?_, fieldsOf_subset s ks⟩
    exact mem_of_field (Option.mem_toList.1 hf)

end Schema

namespace Session

/-- The fields the session's schemas hold. -/
def fields (s : Session) : List Field := s.schemas.flatMap Schema.fields

/-- The session after running steps in order. -/
def after (s : Session) : List Step → Session
  | [] => s
  | step :: steps => (s.run step).1.after steps

/-- The fields a step's answer shows; a failed step shows none. -/
def shownBy : Except StepError Answer → List Field
  | .ok b => b.shownFields
  | .error _ => []

/-- The fields the answers of a run show. -/
def shown (answers : List (Except StepError Answer)) : List Field := answers.flatMap shownBy

/-- Every identity the session holds or has numbered was handed out by its source, and fields
with one identity have one name. -/
structure Coherent (s : Session) : Prop where
  coherent : IdsCoherent s.ids s.fields
  seen_lt : ∀ id ∈ s.seen, id.val < s.ids.next

/-- A field is new to a session when the session's source has not handed out its identity
yet, and no field the session holds and no identity it has numbered has that identity. -/
def Fresh (s : Session) (f : Field) : Prop :=
  s.ids.next ≤ f.id.val ∧ (∀ g ∈ s.fields, g.id ≠ f.id) ∧ ∀ id ∈ s.seen, id ≠ f.id

/-- In a coherent session, a field whose identity the source has not handed out is new. -/
theorem Coherent.fresh {s : Session} {f : Field} (hs : s.Coherent) (h : s.ids.next ≤ f.id.val) :
    s.Fresh f := by
  refine ⟨h, ?_, ?_⟩
  · intro g hg hid
    have := hs.coherent.lt_next g hg
    rw [hid] at this
    omega
  · intro id hid heq
    have := hs.seen_lt id hid
    rw [heq] at this
    omega

/-- The session before any step. -/
theorem coherent_initial : ({} : Session).Coherent :=
  ⟨IdsCoherent.nil _, fun _ h => absurd h List.not_mem_nil⟩

theorem mem_fields {s : Session} {f : Field} : f ∈ s.fields ↔ ∃ sc ∈ s.schemas, f ∈ sc.fields :=
  List.mem_flatMap

/-- The fields of a schema of the session are fields of the session. -/
theorem fields_subset {s : Session} {sc : Schema} (h : sc ∈ s.schemas) : sc.fields ⊆ s.fields :=
  fun _ hf => mem_fields.2 ⟨sc, h, hf⟩

/-! ## Handing out identities -/

/-- `s'` is `s` after creating fields outside any schema and numbering identities: the same
schemas, a source at least as far along, and every new number given to a handed-out
identity. -/
structure HandsOut (s s' : Session) : Prop where
  schemas_eq : s'.schemas = s.schemas
  next_le : s.ids.next ≤ s'.ids.next
  seen_lt : ∀ id ∈ s'.seen, id ∈ s.seen ∨ id.val < s'.ids.next

namespace HandsOut

theorem refl (s : Session) : HandsOut s s := ⟨rfl, Nat.le_refl _, fun _ h => .inl h⟩

theorem trans {s₁ s₂ s₃ : Session} (h₁ : HandsOut s₁ s₂) (h₂ : HandsOut s₂ s₃) :
    HandsOut s₁ s₃ := by
  refine ⟨h₂.schemas_eq.trans h₁.schemas_eq, Nat.le_trans h₁.next_le h₂.next_le, ?_⟩
  intro id hid
  rcases h₂.seen_lt id hid with hid | hlt
  · rcases h₁.seen_lt id hid with hid | hlt
    · exact .inl hid
    · exact .inr (Nat.lt_of_lt_of_le hlt h₂.next_le)
  · exact .inr hlt

theorem fields_eq {s s' : Session} (h : HandsOut s s') : s'.fields = s.fields := by
  unfold Session.fields
  rw [h.schemas_eq]

/-- Handing out identities keeps a session coherent. -/
theorem coherent {s s' : Session} (h : HandsOut s s') (hs : s.Coherent) : s'.Coherent := by
  refine ⟨h.fields_eq ▸ hs.coherent.mono h.next_le, fun id hid => ?_⟩
  rcases h.seen_lt id hid with hid | hlt
  · exact Nat.lt_of_lt_of_le (hs.seen_lt id hid) h.next_le
  · exact hlt

end HandsOut

/-- Numbering a handed-out identity. -/
theorem handsOut_note (s : Session) {id : FieldId} (hid : id.val < s.ids.next) :
    HandsOut s (s.note id) := by
  unfold note
  split
  · exact HandsOut.refl s
  · refine ⟨rfl, Nat.le_refl _, fun x hx => ?_⟩
    rcases List.mem_append.1 hx with hx | hx
    · exact .inl hx
    · rw [List.mem_singleton.1 hx]
      exact .inr hid

/-- Creating a field from the session's source and numbering it: the field is new, and the
session has only handed out its identity. -/
theorem handsOut_create (s : Session) (f : Field) (ids : IdSource) (hid : f.id.val = s.ids.next)
    (hnext : ids.next = s.ids.next + 1) :
    HandsOut s ({ s with ids }.note f.id) ∧ s.ids.next ≤ f.id.val ∧
      f.id.val < ({ s with ids }.note f.id).ids.next := by
  have hstep : HandsOut s { s with ids } :=
    ⟨rfl, by simp only [hnext]; omega, fun id hid => .inl hid⟩
  have hnote : HandsOut { s with ids } ({ s with ids }.note f.id) :=
    handsOut_note _ (by simp only [hid, hnext]; omega)
  refine ⟨hstep.trans hnote, Nat.le_of_eq hid.symm, ?_⟩
  have := hnote.next_le
  simp only at this
  omega

/-- A field made from a column definition is new and numbered. -/
theorem createFromDefinition_spec {s s' : Session} {j : Json} {f : Field}
    (h : s.createFromDefinition j = .ok (f, s')) :
    HandsOut s s' ∧ s.ids.next ≤ f.id.val ∧ f.id.val < s'.ids.next := by
  unfold createFromDefinition at h
  split at h
  · cases h
  · rename_i c _
    cases h
    exact handsOut_create s _ _ rfl rfl

/-- The schema a step names is a schema of the session. -/
theorem schemaAt_mem {s : Session} {n : Option Nat} {sc : Schema} (h : s.schemaAt n = .ok sc) :
    sc ∈ s.schemas := by
  cases n with
  | some n =>
    cases hget : s.schemas[n]? with
    | none => simp [schemaAt, hget] at h
    | some sc' =>
      simp only [schemaAt, hget, Except.ok.injEq] at h
      exact h ▸ List.mem_of_getElem? hget
  | none =>
    cases hlast : s.schemas.getLast? with
    | none => simp [schemaAt, hlast] at h
    | some sc' =>
      simp only [schemaAt, hlast, Except.ok.injEq] at h
      exact h ▸ List.mem_of_getLast? hlast

/-- The field at a column of a schema of the session is a field of the session. -/
theorem columnAt_mem {s : Session} {n : Option Nat} {column : Nat} {f : Field}
    (h : s.columnAt n column = .ok f) : f ∈ s.fields := by
  obtain ⟨sc, hsc, h⟩ := except_bind_eq_ok.1 h
  split at h
  · cases h
    exact fields_subset (schemaAt_mem hsc) (List.mem_of_getElem? ‹_›)
  · cases h

/-- **Keys.** Building a key only hands out identities, and the field of a field key is a
field of the session or a new one. -/
theorem keyOf_spec {s s' : Session} {spec : KeySpec} {k : LookupKey}
    (h : s.keyOf spec = .ok (k, s')) :
    HandsOut s s' ∧ ∀ f, k = .field f →
      f.Twin s.fields ∨ (s.ids.next ≤ f.id.val ∧ f.id.val < s'.ids.next) := by
  cases spec with
  | text t =>
    cases h
    exact ⟨HandsOut.refl s, fun _ hf => LookupKey.noConfusion hf⟩
  | name n =>
    cases hn : n.toName with
    | error e => simp [keyOf, hn] at h
    | ok n' =>
      simp only [keyOf, hn, Except.ok.injEq, Prod.mk.injEq] at h
      obtain ⟨rfl, rfl⟩ := h
      exact ⟨HandsOut.refl s, fun _ hf => LookupKey.noConfusion hf⟩
  | index i =>
    cases h
    exact ⟨HandsOut.refl s, fun _ hf => LookupKey.noConfusion hf⟩
  | column schema column =>
    obtain ⟨f, hf, hpair⟩ := except_map_eq_ok.1 h
    cases hpair
    refine ⟨HandsOut.refl s, fun g hg => .inl ?_⟩
    cases hg
    exact Field.Twin.of_mem (columnAt_mem hf)
  | foreign j =>
    obtain ⟨⟨f, s₁⟩, hf, hpair⟩ := except_map_eq_ok.1 h
    cases hpair
    obtain ⟨hout, hge, hlt⟩ := createFromDefinition_spec hf
    refine ⟨hout, fun g hg => .inr ?_⟩
    cases hg
    exact ⟨hge, hlt⟩
  | invalid reason => cases h

/-- Building a list of keys only hands out identities, whether it fails or not. -/
theorem handsOut_keysOf : ∀ (s : Session) (specs : List KeySpec), HandsOut s (s.keysOf specs).1
  | s, [] => HandsOut.refl s
  | s, spec :: specs => by
    unfold keysOf
    split
    · exact HandsOut.refl s
    · rename_i k s₁ hk
      have hrest := (keyOf_spec hk).1.trans (handsOut_keysOf s₁ specs)
      split <;> rename_i heq <;> rw [heq] at hrest <;> exact hrest

/-- A lookup step only hands out identities, and answers from a schema of the session. -/
theorem lookup_spec (s : Session) (schema : Option Nat) (key : KeySpec)
    (k : Session → Schema → LookupKey → Except StepError Answer) :
    HandsOut s (s.lookup schema key k).1 ∧ ∀ b, (s.lookup schema key k).2 = .ok b →
      ∃ sc ∈ s.schemas, ∃ s' key', k s' sc key' = .ok b := by
  unfold lookup
  split
  · exact ⟨HandsOut.refl s, fun _ h => by simp at h⟩
  · rename_i sc hsc
    split
    · exact ⟨HandsOut.refl s, fun _ h => by simp at h⟩
    · rename_i key' s' hkey
      exact ⟨(keyOf_spec hkey).1, fun b hb => ⟨sc, schemaAt_mem hsc, s', key', hb⟩⟩

/-- **Builder columns.** A builder column only hands out identities, and is the twin of a field
of the session, kept or coerced, or a new field. -/
theorem itemField_spec {s s' : Session} {item : ItemSpec} {f : Field}
    (h : s.itemField item = .ok (f, s')) :
    HandsOut s s' ∧ (f.Twin s.fields ∨ (s.ids.next ≤ f.id.val ∧ f.id.val < s'.ids.next)) := by
  cases item with
  | reuse schema column exposure =>
    obtain ⟨f₀, hf₀, h⟩ := except_bind_eq_ok.1 h
    obtain ⟨e, -, h⟩ := except_bind_eq_ok.1 h
    have htwin := Field.Twin.of_mem (columnAt_mem hf₀)
    cases e with
    | asIs =>
      cases h
      exact ⟨HandsOut.refl s, .inl htwin⟩
    | valueType t =>
      dsimp only at h
      cases hg : f₀.coerceTo t with
      | error m => rw [hg] at h; cases h
      | ok g =>
        rw [hg] at h
        cases h
        exact ⟨HandsOut.refl s, .inl (Field.Twin.of_same (Field.coerceTo_twin hg) htwin)⟩
    | dataType text =>
      dsimp only at h
      cases hd : DataType.parse text with
      | error e => rw [hd] at h; cases h
      | ok d =>
        simp only [hd] at h
        cases hg : f₀.coerceToDataType d with
        | error m => rw [hg] at h; cases h
        | ok g =>
          rw [hg] at h
          cases h
          exact ⟨HandsOut.refl s, .inl (Field.Twin.of_same (Field.coerceToDataType_twin hg) htwin)⟩
  | new j =>
    obtain ⟨hout, hge, hlt⟩ := createFromDefinition_spec h
    exact ⟨hout, .inr ⟨hge, hlt⟩⟩
  | declared n text =>
    cases hn : n.toName with
    | error e => simp [itemField, hn] at h
    | ok name =>
      simp only [itemField, hn] at h
      obtain ⟨text', -, h⟩ := except_bind_eq_ok.1 h
      cases hd : DataType.parse text' with
      | error e => rw [hd] at h; cases h
      | ok d =>
        simp only [hd, Field.ofDataType, Field.create, IdSource.fresh] at h
        cases h
        obtain ⟨hout, hge, hlt⟩ :=
          handsOut_create s ⟨⟨s.ids.next⟩, name, d.valueType, d⟩ ⟨s.ids.next + 1⟩ rfl rfl
        exact ⟨hout, .inr ⟨hge, hlt⟩⟩
  | invalid reason => cases h

/-- Fields gathered for a new schema while the session went from `s` to `s'`: identities were
only handed out meanwhile, the gathered fields agree on names with each other and with the
fields of `s`, each is the twin of a field of `s` or carries an identity handed out meanwhile,
and two of them share an identity only when a field of `s` has it. -/
structure Gathered (s s' : Session) (fs : List Field) : Prop where
  handsOut : HandsOut s s'
  coherent : IdsCoherent s'.ids (fs ++ s.fields)
  origin : ∀ f ∈ fs, f.Twin s.fields ∨ (s.ids.next ≤ f.id.val ∧ f.id.val < s'.ids.next)
  repeats : fs.Pairwise fun f g => f.id = g.id → ∃ h ∈ s.fields, h.id = f.id

namespace Gathered

/-- Nothing gathered yet. -/
theorem nil {s : Session} (hs : s.Coherent) : Gathered s s [] :=
  ⟨HandsOut.refl s, hs.coherent, fun _ h => absurd h List.not_mem_nil, List.Pairwise.nil⟩

/-- The fields of a schema of the session, gathered again. -/
theorem of_mem {s : Session} {sc : Schema} (hs : s.Coherent) (hsc : sc ∈ s.schemas) :
    Gathered s s sc.fields :=
  ⟨HandsOut.refl s, hs.coherent.subset (List.append_subset.2 ⟨fields_subset hsc, fun _ h => h⟩),
    fun _ hf => .inl (Field.Twin.of_mem (fields_subset hsc hf)),
    List.pairwise_of_forall_mem_list fun f hf _ _ _ => ⟨f, fields_subset hsc hf, rfl⟩⟩

/-- Fields with consecutive new identities, made from the session's source, are gathered. -/
theorem of_consecutive {s : Session} {ids : IdSource} {fs : List Field} (hs : s.Coherent)
    (hids : fs.map (fun f => f.id.val) = List.range' s.ids.next fs.length)
    (hnext : ids.next = s.ids.next + fs.length) : Gathered s { s with ids } fs := by
  have hcoh := hs.coherent.append_consecutive hids hnext
  have hdistinct : fs.Pairwise fun f g => f.id ≠ g.id :=
    List.pairwise_map.1 (nodup_ids_of_consecutive hids)
  refine ⟨⟨rfl, ?_, fun id hid => .inl hid⟩, hcoh, fun f hf => .inr ⟨?_, hcoh.lt_next f ?_⟩,
    hdistinct.imp fun hne heq => absurd heq hne⟩
  · show s.ids.next ≤ ids.next
    omega
  · have hmem : f.id.val ∈ List.range' s.ids.next _ := hids ▸ List.mem_map_of_mem hf
    exact (List.mem_range'_1.1 hmem).1
  · exact List.mem_append_left _ hf

/-- **One more field.** Gathering a twin or a new field keeps the invariant. -/
theorem cons {s₀ s s' : Session} {acc : List Field} {f : Field} (hg : Gathered s₀ s acc)
    (hout : HandsOut s s')
    (hf : f.Twin s.fields ∨ (s.ids.next ≤ f.id.val ∧ f.id.val < s'.ids.next)) :
    Gathered s₀ s' (f :: acc) := by
  have hfields : s.fields = s₀.fields := hg.handsOut.fields_eq
  -- the identities gathered so far were all handed out before `f`'s turn
  have hacc : ∀ g ∈ acc, g.id.val < s.ids.next := fun g hg' =>
    hg.coherent.lt_next g (List.mem_append_left _ hg')
  refine ⟨hg.handsOut.trans hout, ?_, ?_, List.pairwise_cons.2 ⟨fun g hg' heq => ?_, hg.repeats⟩⟩
  · rcases hf with htwin | ⟨hge, hlt⟩
    · have htwin' : f.Twin (acc ++ s₀.fields) :=
        htwin.mono (hfields ▸ List.subset_append_right acc s₀.fields)
      exact (hg.coherent.cons_twin htwin').mono hout.next_le
    · exact hg.coherent.cons_fresh hge hlt
  · intro x hx
    rcases List.mem_cons.1 hx with rfl | hx
    · rcases hf with htwin | ⟨hge, hlt⟩
      · exact .inl (hfields ▸ htwin)
      · exact .inr ⟨Nat.le_trans hg.handsOut.next_le hge, hlt⟩
    · rcases hg.origin x hx with htwin | ⟨hge, hlt⟩
      · exact .inl htwin
      · exact .inr ⟨hge, Nat.lt_of_lt_of_le hlt hout.next_le⟩
  · rcases hf with ⟨h, hh, hid, -⟩ | ⟨hge, -⟩
    · exact ⟨h, hfields ▸ hh, hid⟩
    · have := hacc g hg'
      rw [← heq] at this
      omega

/-- The order of the gathered fields does not matter. -/
theorem reverse {s s' : Session} {fs : List Field} (hg : Gathered s s' fs) :
    Gathered s s' fs.reverse := by
  refine ⟨hg.handsOut, hg.coherent.subset fun x hx => ?_, fun f hf => hg.origin f (List.mem_reverse.1 hf),
    List.pairwise_reverse.2 (hg.repeats.imp fun hrep heq => ?_)⟩
  · simp only [List.mem_append, List.mem_reverse] at hx ⊢
    exact hx
  · obtain ⟨h, hh, hid⟩ := hrep heq.symm
    exact ⟨h, hh, hid.trans heq.symm⟩

/-- In a coherent session, the gathered fields that carry identities handed out meanwhile carry
pairwise distinct ones. -/
theorem new_ids_nodup {s s' : Session} {fs : List Field} (hs : s.Coherent) (hg : Gathered s s' fs) :
    ((fs.filter fun f => s.ids.next ≤ f.id.val).map Field.id).Nodup := by
  refine List.pairwise_map.2 (List.pairwise_filter.2 (hg.repeats.imp fun hrep hf _ heq => ?_))
  obtain ⟨h, hh, hid⟩ := hrep heq
  have hlt := hs.coherent.lt_next h hh
  rw [hid] at hlt
  simp only [decide_eq_true_eq] at hf
  omega

end Gathered

/-- **All builder columns.** Collecting builder columns only hands out identities, also when a
column fails, and what it collects is gathered. -/
theorem itemFields_spec {s₀ : Session} :
    ∀ (items : List ItemSpec) (s : Session) (acc : List Field), Gathered s₀ s acc →
      HandsOut s₀ (s.itemFields items acc).1 ∧
        ∀ fs, (s.itemFields items acc).2 = .ok fs → Gathered s₀ (s.itemFields items acc).1 fs
  | [], s, acc, hg => ⟨hg.handsOut, fun fs h => by cases h; exact hg.reverse⟩
  | item :: items, s, acc, hg => by
    unfold itemFields
    split
    · rename_i f s₁ hitem
      obtain ⟨hout, hf⟩ := itemField_spec hitem
      exact itemFields_spec items s₁ (f :: acc) (hg.cons hout hf)
    · exact ⟨hg.handsOut, fun fs h => by cases h⟩

/-- The columns of a definition, made from the session's source, are gathered. -/
theorem gathered_build {s : Session} (hs : s.Coherent) (d : SchemaDefinition) :
    Gathered s { s with ids := (d.build s.ids).2 } (d.build s.ids).1.fields := by
  obtain ⟨hids, hnext⟩ := ColumnDefinition.toFields_ids s.ids d.columns
  exact Gathered.of_consecutive hs hids hnext

/-- The columns of a column list, made from the session's source, are gathered. -/
theorem gathered_ofColumns {s : Session} (hs : s.Coherent)
    {cols : List (List String × ValueType × DataType)} {sc : Schema} {ids : IdSource}
    (h : Schema.ofColumns s.ids cols = .ok (sc, ids)) : Gathered s { s with ids } sc.fields := by
  obtain ⟨⟨fs, ids'⟩, hfs, hpair⟩ := except_map_eq_ok.1 h
  cases hpair
  obtain ⟨hids, hnext⟩ := Schema.fieldsOfColumns_ids hfs
  exact Gathered.of_consecutive hs hids hnext

/-! ## Adding a schema -/

@[simp] theorem note_schemas (s : Session) (id : FieldId) : (s.note id).schemas = s.schemas := by
  unfold note
  split <;> rfl

@[simp] theorem note_ids (s : Session) (id : FieldId) : (s.note id).ids = s.ids := by
  unfold note
  split <;> rfl

/-- Numbering the identities of fields changes neither the schemas nor the source. -/
theorem foldl_note (s : Session) (fs : List Field) :
    (fs.foldl (fun s f => s.note f.id) s).schemas = s.schemas ∧
      (fs.foldl (fun s f => s.note f.id) s).ids = s.ids := by
  induction fs generalizing s with
  | nil => exact ⟨rfl, rfl⟩
  | cons f fs ih =>
    obtain ⟨hschemas, hids⟩ := ih (s.note f.id)
    exact ⟨hschemas.trans (note_schemas s f.id), hids.trans (note_ids s f.id)⟩

/-- Numbering handed-out identities of fields only hands them out. -/
theorem handsOut_foldl_note (s : Session) (fs : List Field) (h : ∀ f ∈ fs, f.id.val < s.ids.next) :
    HandsOut s (fs.foldl (fun s f => s.note f.id) s) := by
  induction fs generalizing s with
  | nil => exact HandsOut.refl s
  | cons f fs ih =>
    have hnote := handsOut_note s (h f List.mem_cons_self)
    refine hnote.trans (ih _ fun g hg => ?_)
    rw [note_ids]
    exact h g (List.mem_cons_of_mem f hg)

theorem add_ids (s : Session) (sc : Schema) : (s.add sc).1.ids = s.ids :=
  (foldl_note s sc.fields).2

/-- Adding a schema appends its fields to those of the session. -/
theorem add_fields (s : Session) (sc : Schema) : (s.add sc).1.fields = s.fields ++ sc.fields := by
  simp only [add, fields, (foldl_note s sc.fields).1, List.flatMap_append, List.flatMap_singleton]

@[simp] theorem numbered_field (s : Session) (f : Field) : (s.numbered f).field = f := rfl

/-- Numbering fields keeps them. -/
@[simp] theorem map_numbered_field (s : Session) (fs : List Field) :
    (fs.map s.numbered).map (·.field) = fs := by
  simp [List.map_map, Function.comp_def]

/-- What adding a schema answers shows its fields. -/
theorem add_shownFields (s : Session) (sc : Schema) : (s.add sc).2.shownFields = sc.fields := by
  simp only [add, Answer.shownFields, view, map_numbered_field]

/-- **Adding a schema.** Adding a schema whose fields were gathered keeps the session
coherent. -/
theorem Gathered.coherent_add {s s₁ : Session} {sc : Schema} (hs : s.Coherent)
    (hg : Gathered s s₁ sc.fields) : (s₁.add sc).1.Coherent := by
  have hs₁ := hg.handsOut.coherent hs
  have hlt : ∀ f ∈ sc.fields, f.id.val < s₁.ids.next := fun f hf =>
    hg.coherent.lt_next f (List.mem_append_left _ hf)
  have hnote := (handsOut_foldl_note s₁ sc.fields hlt).coherent hs₁
  refine ⟨?_, fun id hid => ?_⟩
  · rw [add_fields, add_ids, hg.handsOut.fields_eq]
    exact hg.coherent.subset
      (List.append_subset.2 ⟨List.subset_append_right _ _, List.subset_append_left _ _⟩)
  · rw [add_ids, ← (foldl_note s₁ sc.fields).2]
    exact hnote.seen_lt id hid

/-! ## Steps -/

/-- What a step does to the session: it only hands out identities, or it adds a schema whose
fields it gathered. -/
inductive Advances (s : Session) : Session → Prop
  | handsOut {s' : Session} : HandsOut s s' → Advances s s'
  | adds {s₁ : Session} {sc : Schema} : Gathered s s₁ sc.fields → Advances s (s₁.add sc).1

namespace Advances

variable {s s' : Session}

/-- A step keeps a session coherent. -/
theorem coherent (hs : s.Coherent) (h : Advances s s') : s'.Coherent := by
  cases h with
  | handsOut h => exact h.coherent hs
  | adds hg => exact hg.coherent_add hs

/-- The fields after a step: those held before, and gathered ones. -/
theorem exists_gathered (hs : s.Coherent) (h : Advances s s') :
    ∃ s₁ fs, s'.fields = s.fields ++ fs ∧ Gathered s s₁ fs := by
  cases h with
  | handsOut h => exact ⟨s, [], by rw [h.fields_eq, List.append_nil], Gathered.nil hs⟩
  | @adds s₁ sc hg => exact ⟨s₁, sc.fields, by rw [add_fields, hg.handsOut.fields_eq], hg⟩

/-- A step keeps every field. -/
theorem fields_subset (hs : s.Coherent) (h : Advances s s') : s.fields ⊆ s'.fields := by
  obtain ⟨_, fs, heq, -⟩ := h.exists_gathered hs
  rw [heq]
  exact List.subset_append_left _ fs

/-- **New fields.** Every field held after a step is the twin of a field held before or new to
the session before the step. -/
theorem origin (hs : s.Coherent) (h : Advances s s') :
    ∀ f ∈ s'.fields, f.Twin s.fields ∨ s.Fresh f := by
  obtain ⟨_, fs, heq, hg⟩ := h.exists_gathered hs
  intro f hf
  rw [heq] at hf
  rcases List.mem_append.1 hf with hf | hf
  · exact .inl (Field.Twin.of_mem hf)
  · rcases hg.origin f hf with htwin | ⟨hge, -⟩
    · exact .inl htwin
    · exact .inr (hs.fresh hge)

/-- The fields a step creates carry pairwise distinct identities. -/
theorem new_ids_nodup (hs : s.Coherent) (h : Advances s s') :
    ((s'.fields.filter fun f => s.ids.next ≤ f.id.val).map Field.id).Nodup := by
  obtain ⟨_, fs, heq, hg⟩ := h.exists_gathered hs
  -- the fields held before carry identities the source had handed out
  have hold : s.fields.filter (fun f => s.ids.next ≤ f.id.val) = [] := by
    refine List.filter_eq_nil_iff.2 fun f hf hge => ?_
    have := hs.coherent.lt_next f hf
    simp only [decide_eq_true_eq] at hge
    omega
  rw [heq, List.filter_append, hold, List.nil_append]
  exact hg.new_ids_nodup hs

end Advances

/-! ## Answers -/

/-- Every field the answer shows is the twin of a field of the session. -/
def ShowsTwins (s : Session) (a : Except StepError Answer) : Prop :=
  ∀ f ∈ shownBy a, f.Twin s.fields

theorem showsTwins_error (s : Session) (e : StepError) : ShowsTwins s (.error e) :=
  fun _ h => absurd h List.not_mem_nil

/-- An answer whose fields are twins of fields of a schema the session holds. -/
theorem showsTwins_of_subset {s : Session} {fs : List Field} {b : Answer} (hfs : fs ⊆ s.fields)
    (h : ∀ f ∈ b.shownFields, f.Twin fs) : ShowsTwins s (.ok b) :=
  fun f hf => (h f hf).mono hfs

/-- A computation whose every answer shows no field. -/
theorem showsTwins_of_nil {s : Session} {a : Except StepError Answer}
    (h : ∀ b, a = .ok b → b.shownFields = []) : ShowsTwins s a := by
  intro f hf
  cases a with
  | error e => exact absurd hf List.not_mem_nil
  | ok b =>
    rw [shownBy, h b rfl] at hf
    exact absurd hf List.not_mem_nil

/-- Adding a schema shows its fields, which the session then holds. -/
theorem showsTwins_add (s : Session) (sc : Schema) : ShowsTwins (s.add sc).1 (.ok (s.add sc).2) := by
  intro f hf
  rw [shownBy, add_shownFields] at hf
  rw [add_fields]
  exact Field.Twin.of_mem (List.mem_append_right _ hf)

@[simp] theorem toList_map_numbered_field (s : Session) (o : Option Field) :
    (o.map s.numbered).toList.map (·.field) = o.toList := by
  cases o <;> rfl

/-- A lookup shows twins of the session's fields when what it answers from each schema shows
twins of the schema's fields. -/
theorem lookup_shows (s : Session) (schema : Option Nat) (key : KeySpec)
    {k : Session → Schema → LookupKey → Except StepError Answer}
    (hk : ∀ s' sc key' b, k s' sc key' = .ok b → ∀ f ∈ b.shownFields, f.Twin sc.fields) :
    Advances s (s.lookup schema key k).1 ∧
      ShowsTwins (s.lookup schema key k).1 (s.lookup schema key k).2 := by
  obtain ⟨hout, hans⟩ := lookup_spec s schema key k
  refine ⟨.handsOut hout, ?_⟩
  cases ha : (s.lookup schema key k).2 with
  | error e => exact showsTwins_error _ e
  | ok b =>
    obtain ⟨sc, hsc, s', key', hb⟩ := hans b ha
    exact showsTwins_of_subset (hout.fields_eq ▸ fields_subset hsc) (hk s' sc key' b hb)

/-- A lookup that may refuse a coercion shows the field its result holds. -/
theorem coercing_shows {r : Traced (Except TypeMismatch (Option Field))} {s : Session} {b : Answer}
    {fs : List Field} (hr : ∀ g, r.value = .ok (some g) → g.Twin fs) (h : coercing r s = .ok b) :
    ∀ f ∈ b.shownFields, f.Twin fs := by
  unfold coercing at h
  cases hv : r.value with
  | error m => rw [hv] at h; cases h
  | ok o =>
    rw [hv] at h
    cases h
    intro f hf
    simp only [Answer.shownFields, toList_map_numbered_field, Option.mem_toList] at hf
    exact hr f (by rw [hv, hf])

/-- **One step.** A step of a coherent session advances it, and its answer shows only twins of
fields the session holds after it. -/
theorem run_spec {s : Session} (hs : s.Coherent) (step : Step) :
    Advances s (s.run step).1 ∧ ShowsTwins (s.run step).1 (s.run step).2 := by
  -- the steps that leave the session as it is, and those that add a schema
  have hstays : ∀ a, ShowsTwins s a → Advances s s ∧ ShowsTwins s a :=
    fun _ h => ⟨.handsOut (HandsOut.refl s), h⟩
  have hadds : ∀ {s₁ : Session} {sc : Schema}, Gathered s s₁ sc.fields →
      Advances s (s₁.add sc).1 ∧ ShowsTwins (s₁.add sc).1 (.ok (s₁.add sc).2) :=
    fun hg => ⟨.adds hg, showsTwins_add _ _⟩
  cases step with
  | json text =>
    cases hd : SchemaDefinition.ofText text with
    | error e => simp only [run, hd]; exact hstays _ (showsTwins_error s _)
    | ok d => simp only [run, hd]; exact hadds (gathered_build hs d)
  | value j =>
    cases hd : SchemaDefinition.ofJson j with
    | error e => simp only [run, hd]; exact hstays _ (showsTwins_error s _)
    | ok d => simp only [run, hd]; exact hadds (gathered_build hs d)
  | empty => exact hadds (Gathered.nil hs)
  | columns cols =>
    cases ht : columnTypes cols with
    | error e => simp only [run, ht]; exact hstays _ (showsTwins_error s _)
    | ok typed =>
      cases hc : Schema.ofColumns s.ids typed with
      | error e => simp only [run, ht, hc]; exact hstays _ (showsTwins_error s _)
      | ok p =>
        obtain ⟨sc, ids⟩ := p
        simp only [run, ht, hc]
        exact hadds (gathered_ofColumns hs hc)
  | builder collation policy items =>
    obtain ⟨hout, hgath⟩ := itemFields_spec items s [] (Gathered.nil hs)
    cases hi : s.itemFields items [] with
    | mk s₁ r =>
      rw [hi] at hout hgath
      cases r with
      | error e => simp only [run, hi]; exact ⟨.handsOut hout, showsTwins_error _ e⟩
      | ok fs => simp only [run, hi]; exact hadds (hgath fs rfl)
  | withPolicy schema policy =>
    cases hsc : s.schemaAt schema with
    | error e => simp only [run, hsc]; exact hstays _ (showsTwins_error s _)
    | ok sc =>
      cases hp : Given.require policy with
      | error e => simp only [run, hsc, hp]; exact hstays _ (showsTwins_error s _)
      | ok p =>
        simp only [run, hsc, hp]
        -- a schema under another policy has the same fields
        have hg := Gathered.of_mem hs (schemaAt_mem hsc)
        exact hadds hg
  | clone schema =>
    cases hsc : s.schemaAt schema with
    | error e => simp only [run, hsc]; exact hstays _ (showsTwins_error s _)
    | ok sc => simp only [run, hsc]; exact hadds (Gathered.of_mem hs (schemaAt_mem hsc))
  | describe schema =>
    refine hstays _ ?_
    cases hsc : s.schemaAt schema with
    | error e => simp only [run, hsc]; exact showsTwins_error s _
    | ok sc =>
      simp only [run, hsc, Except.map]
      refine showsTwins_of_subset (fields_subset (schemaAt_mem hsc)) fun f hf => ?_
      simp only [Answer.shownFields, view, map_numbered_field] at hf
      exact Field.Twin.of_mem hf
  | eq schema other =>
    refine hstays _ (showsTwins_of_nil fun b hb => ?_)
    obtain ⟨_, -, hb⟩ := except_bind_eq_ok.1 hb
    obtain ⟨_, -, hb⟩ := except_bind_eq_ok.1 hb
    obtain ⟨_, -, hb⟩ := except_bind_eq_ok.1 hb
    cases hb
    rfl
  | fieldAt schema index =>
    refine hstays _ fun f hf => ?_
    cases ha : (run s (.fieldAt schema index)).2 with
    | error e => rw [ha] at hf; exact absurd hf List.not_mem_nil
    | ok b =>
      rw [ha] at hf
      obtain ⟨sc, hsc, hb⟩ := except_bind_eq_ok.1 ha
      obtain ⟨i, -, hb⟩ := except_bind_eq_ok.1 hb
      cases hb
      simp only [shownBy, Answer.shownFields, toList_map_numbered_field, Option.mem_toList] at hf
      exact Field.Twin.of_mem (fields_subset (schemaAt_mem hsc) (List.mem_of_getElem? hf))
  | same a b =>
    have hout := handsOut_keysOf s [a, b]
    cases hk : s.keysOf [a, b] with
    | mk s₁ r =>
      rw [hk] at hout
      cases r with
      | error e => simp only [run, hk]; exact ⟨.handsOut hout, showsTwins_error _ e⟩
      | ok ks =>
        simp only [run, hk]
        split
        · exact ⟨.handsOut hout, showsTwins_of_nil fun _ hb => by cases hb; rfl⟩
        · exact ⟨.handsOut hout, showsTwins_error _ _⟩
  | resolve schema key =>
    exact lookup_shows s schema key fun _ _ _ _ hb f hf => by cases hb; cases hf
  | field schema key =>
    refine lookup_shows s schema key fun s' sc key' b hb f hf => ?_
    cases hb
    simp only [Answer.shownFields, toList_map_numbered_field, Option.mem_toList] at hf
    exact Field.Twin.of_mem (Schema.mem_of_field hf)
  | indexOf schema key =>
    exact lookup_shows s schema key fun _ _ _ _ hb f hf => by cases hb; cases hf
  | typeOf schema key =>
    exact lookup_shows s schema key fun _ _ _ _ hb f hf => by cases hb; cases hf
  | dataTypeOf schema key =>
    exact lookup_shows s schema key fun _ _ _ _ hb f hf => by cases hb; cases hf
  | fieldAs schema key t =>
    refine lookup_shows s schema key fun s' sc key' b hb => ?_
    cases ht : Given.require t with
    | error e => simp only [ht] at hb; cases hb
    | ok t' =>
      simp only [ht] at hb
      exact coercing_shows (fun _ hg => Schema.twin_of_fieldAs hg) hb
  | fieldAsDataType schema key text =>
    refine lookup_shows s schema key fun s' sc key' b hb => ?_
    cases ht : Given.require text with
    | error e => simp only [ht] at hb; cases hb
    | ok text' =>
      cases hd : DataType.parse text' with
      | error e => simp only [ht, hd] at hb; cases hb
      | ok d =>
        simp only [ht, hd] at hb
        exact coercing_shows (fun _ hg => Schema.twin_of_fieldAsDataType hg) hb
  | fieldsOf schema keys =>
    cases hsc : s.schemaAt schema with
    | error e => simp only [run, hsc]; exact hstays _ (showsTwins_error s _)
    | ok sc =>
      cases hks : Given.require keys with
      | error e => simp only [run, hsc, hks]; exact hstays _ (showsTwins_error s _)
      | ok specs =>
        have hout := handsOut_keysOf s specs
        cases hk : s.keysOf specs with
        | mk s₁ r =>
          rw [hk] at hout
          cases r with
          | error e => simp only [run, hsc, hks, hk]; exact ⟨.handsOut hout, showsTwins_error _ e⟩
          | ok ks =>
            simp only [run, hsc, hks, hk]
            have hsub : sc.fields ⊆ s₁.fields := hout.fields_eq ▸ fields_subset (schemaAt_mem hsc)
            refine ⟨.handsOut hout, showsTwins_of_subset hsub fun f hf => ?_⟩
            simp only [Answer.shownFields, map_numbered_field] at hf
            exact Field.Twin.of_mem (sc.fieldsOf_subset ks hf)
  | invalid reason => exact hstays _ (showsTwins_error s _)

/-! ## Runs -/

theorem runAll_cons (s : Session) (step : Step) (steps : List Step) :
    s.runAll (step :: steps) = (s.run step).2 :: (s.run step).1.runAll steps := rfl

/-- **Every run.** A run of steps from a coherent session keeps it coherent and keeps every
field it holds, and its answers show only twins of fields held at its end. -/
theorem after_spec : ∀ (s : Session) (steps : List Step), s.Coherent →
    (s.after steps).Coherent ∧ s.fields ⊆ (s.after steps).fields ∧
      ∀ f ∈ shown (s.runAll steps), f.Twin (s.after steps).fields
  | s, [], hs => ⟨hs, List.Subset.refl _, fun _ hf => absurd hf List.not_mem_nil⟩
  | s, step :: steps, hs => by
    obtain ⟨hadv, hshows⟩ := run_spec hs step
    obtain ⟨hcoh, hsub, hrest⟩ := after_spec (s.run step).1 steps (hadv.coherent hs)
    refine ⟨hcoh, List.Subset.trans (hadv.fields_subset hs) hsub, fun f hf => ?_⟩
    -- the step's own answer comes first, then those of the rest of the run
    rw [runAll_cons, shown, List.flatMap_cons, List.mem_append] at hf
    rcases hf with hf | hf
    · exact (hshows f hf).mono hsub
    · exact hrest f hf

/-- **Field identities over every run.** After any steps from the empty session:

* the session is coherent: every identity it holds or has numbered was handed out by its
  source, and fields with one identity have one name;
* every field it holds or an answer showed is the twin of a field it holds, so two of them
  with one identity have one name;
* a next step holds only twins of fields held now and new fields, whose identities are
  pairwise distinct, and a key it builds carries a twin or a new field;
* coercions keep the identity and the name, and the columns of a column list or of a
  definition get pairwise distinct identities from every source. -/
theorem after_fieldIds (steps : List Step) :
    let s := ({} : Session).after steps
    let values := s.fields ++ shown (({} : Session).runAll steps)
    s.Coherent ∧ (∀ f ∈ values, f.Twin s.fields) ∧
      (∀ f ∈ values, ∀ g ∈ values, f.id = g.id → f.name = g.name) ∧
      (∀ step, ∀ f ∈ (s.run step).1.fields, f.Twin s.fields ∨ s.Fresh f) ∧
      (∀ step, (((s.run step).1.fields.filter fun f => s.ids.next ≤ f.id.val).map Field.id).Nodup) ∧
      (∀ spec k s', s.keyOf spec = .ok (k, s') → ∀ f, k = .field f → f.Twin s.fields ∨ s.Fresh f) ∧
      (∀ (f g : Field) t, f.coerceTo t = .ok g → g.id = f.id ∧ g.name = f.name) ∧
      (∀ (f g : Field) d, f.coerceToDataType d = .ok g → g.id = f.id ∧ g.name = f.name) ∧
      (∀ src cols sc src', Schema.ofColumns src cols = .ok (sc, src') →
        (sc.fields.map Field.id).Nodup) ∧
      ∀ src (d : SchemaDefinition), ((d.build src).1.fields.map Field.id).Nodup := by
  intro s values
  obtain ⟨hs, -, hshown⟩ := after_spec {} steps coherent_initial
  have htwins : ∀ f ∈ values, f.Twin s.fields := fun f hf => by
    rcases List.mem_append.1 hf with hf | hf
    · exact Field.Twin.of_mem hf
    · exact hshown f hf
  refine ⟨hs, htwins, fun f hf g hg hfg => ?_, fun step => (run_spec hs step).1.origin hs,
    fun step => (run_spec hs step).1.new_ids_nodup hs, fun spec k s' h f hk => ?_,
    fun _ _ _ => Field.coerceTo_twin, fun _ _ _ => Field.coerceToDataType_twin,
    fun src cols sc src' h => ?_, fun src d => ?_⟩
  · -- two twins of held fields with one identity are twins of fields with one name
    obtain ⟨f', hf', hid, hname⟩ := htwins f hf
    obtain ⟨g', hg', hid', hname'⟩ := htwins g hg
    calc f.name = f'.name := hname.symm
      _ = g'.name := hs.coherent.name_eq f' hf' g' hg' (hid.trans (hfg.trans hid'.symm))
      _ = g.name := hname'
  · rcases (keyOf_spec h).2 f hk with htwin | ⟨hge, -⟩
    · exact .inl htwin
    · exact .inr (hs.fresh hge)
  · obtain ⟨⟨fs, ids⟩, hfs, hpair⟩ := except_map_eq_ok.1 h
    cases hpair
    exact nodup_ids_of_consecutive (Schema.fieldsOfColumns_ids hfs).1
  · exact nodup_ids_of_consecutive (ColumnDefinition.toFields_ids src d.columns).1

end Session

end RecordSchema
