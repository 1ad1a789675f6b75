import RecordSchema.Definition.OfText
import RecordSchema.Schema.Resolve
/-!
# Sessions

A session is a workbench of schemas, numbered 0, 1, … in the order they are added, together
with the source of field identities and the order in which identities first appeared. Fields
are reported by that order: the first identity seen is number 0. A field gets its number when
a schema holding it is added, or as soon as it is created outside any schema (a foreign key,
a new or declared builder column).

A session runs steps one after another. A failing step adds nothing but keeps the numbers it
gave out, and the session goes on with the next step.
-/

namespace RecordSchema

/-- A part of a step as the request gives it: the value, or why the request gives none that can
be used. A step meets an unusable part only when it comes to use it, so what the step did
before, such as numbering a new field, stands. -/
abbrev Given (α : Type) := Except String α

/-- A name as given in a request: a text to read, or parts to take verbatim. -/
inductive NameSpec where
  | text (s : String)
  | parts (ps : List String)

/-- The name a specification gives. -/
def NameSpec.toName : NameSpec → Except NameError Name
  | .text s => Name.parse s
  | .parts ps => Name.new ps

/-- A reference to a column as given in a request. -/
inductive KeySpec where
  /-- A text, read as a name where it can be. -/
  | text (s : String)
  /-- A name. -/
  | name (n : NameSpec)
  /-- A position. -/
  | index (i : Nat)
  /-- The field at a column of a schema (the last one when none is named). -/
  | column (schema : Option Nat) (column : Nat)
  /-- A new field, in no schema, made from a column definition. -/
  | foreign (definition : Json)
  /-- A reference that could not be understood, with the reason. -/
  | invalid (reason : String)

/-- How a reused column is exposed in a new schema. -/
inductive Exposure where
  | asIs
  | valueType (t : ValueType)
  | dataType (text : String)

/-- A column of a schema being built. -/
inductive ItemSpec where
  /-- A column of an existing schema, kept or coerced. -/
  | reuse (schema : Option Nat) (column : Nat) (exposure : Given Exposure)
  /-- A new field from a column definition. -/
  | new (definition : Json)
  /-- A new field from a name and a data type text; the name is read before the text is
  looked at. -/
  | declared (name : NameSpec) (dataType : Given String)
  /-- An item that could not be understood, with the reason. -/
  | invalid (reason : String)

/-- A step of a session. -/
inductive Step where
  | json (text : String)
  | value (definition : Json)
  | empty
  | columns (columns : List (Given (List String × String × String)))
  | builder (collation : Collation) (policy : AmbiguityPolicy) (items : List ItemSpec)
  | withPolicy (schema : Option Nat) (policy : Given AmbiguityPolicy)
  | clone (schema : Option Nat)
  | describe (schema : Option Nat)
  | eq (schema : Option Nat) (other : Given (Option Nat))
  | fieldAt (schema : Option Nat) (index : Given Nat)
  | same (a b : KeySpec)
  | resolve (schema : Option Nat) (key : KeySpec)
  | field (schema : Option Nat) (key : KeySpec)
  | indexOf (schema : Option Nat) (key : KeySpec)
  | typeOf (schema : Option Nat) (key : KeySpec)
  | dataTypeOf (schema : Option Nat) (key : KeySpec)
  | fieldAs (schema : Option Nat) (key : KeySpec) (valueType : Given ValueType)
  | fieldAsDataType (schema : Option Nat) (key : KeySpec) (dataType : Given String)
  | fieldsOf (schema : Option Nat) (keys : Given (List KeySpec))
  /-- A step that could not be understood, with the reason. -/
  | invalid (reason : String)

/-- A field with its number in the session. -/
structure NumberedField where
  field : Field
  number : Nat

/-- A schema with the numbers of its fields. -/
structure SchemaView where
  schema : Schema
  fields : List NumberedField

/-- What a step answers. -/
inductive Answer where
  | added (index : Nat) (view : SchemaView)
  | described (view : SchemaView)
  | equal (b : Bool)
  | fieldAt (f : Option NumberedField)
  | same (b : Bool)
  | resolved (m : Option Match) (events : List AmbiguousMatch)
  | field (f : Option NumberedField) (events : List AmbiguousMatch)
  | index (i : Option Nat) (events : List AmbiguousMatch)
  | valueType (t : Option ValueType) (events : List AmbiguousMatch)
  | dataType (d : Option DataType) (events : List AmbiguousMatch)
  | fields (fs : List NumberedField) (events : List AmbiguousMatch)

/-- Why a step failed. -/
inductive StepError where
  /-- The request does not follow the session's rules. -/
  | badRequest (reason : String)
  | name (e : NameError)
  | dataType (e : DataTypeError)
  | schema (e : SchemaError)
  /-- A coercion was refused; a lookup also reports the ambiguity events it met. -/
  | mismatch (m : TypeMismatch) (events : Option (List AmbiguousMatch))

/-- A workbench of schemas with field numbering. -/
structure Session where
  schemas : List Schema := []
  ids : IdSource := {}
  seen : List FieldId := []

/-- The value of a part of a step, or the failure of a step whose request does not give it. -/
def Given.require {α : Type} (g : Given α) : Except StepError α :=
  g.mapError .badRequest

namespace Session

/-- Gives an identity the next number unless it has one. -/
def note (s : Session) (id : FieldId) : Session :=
  if s.seen.contains id then s else { s with seen := s.seen ++ [id] }

/-- The number of an identity. -/
def numberOf (s : Session) (id : FieldId) : Nat := (s.seen.idxOf? id).getD s.seen.length

/-- A field with its number. -/
def numbered (s : Session) (f : Field) : NumberedField := ⟨f, s.numberOf f.id⟩

/-- A schema with the numbers of its fields. -/
def view (s : Session) (sc : Schema) : SchemaView := ⟨sc, sc.fields.map s.numbered⟩

/-- Adds a schema, numbering its fields in column order. -/
def add (s : Session) (sc : Schema) : Session × Answer :=
  let s := sc.fields.foldl (fun s f => s.note f.id) s
  let s := { s with schemas := s.schemas ++ [sc] }
  (s, .added (s.schemas.length - 1) (s.view sc))

/-- The schema a step names, or the last one added. -/
def schemaAt (s : Session) : Option Nat → Except StepError Schema
  | some n =>
    match s.schemas[n]? with
    | some sc => .ok sc
    | none => .error (.badRequest s!"no schema {n}")
  | none =>
    match s.schemas.getLast? with
    | some sc => .ok sc
    | none => .error (.badRequest "no schema built yet")

/-- The field at a column of a schema. -/
def columnAt (s : Session) (schema : Option Nat) (column : Nat) : Except StepError Field := do
  let sc ← s.schemaAt schema
  match sc.fieldAt? column with
  | some f => .ok f
  | none =>
    let which := match schema with
      | some n => toString n
      | none => toString (s.schemas.length - 1)
    .error (.badRequest s!"schema {which} has no column {column}")

/-- Makes a new field from a column definition and numbers it. -/
def createFromDefinition (s : Session) (j : Json) : Except StepError (Field × Session) :=
  match ColumnDefinition.ofJson j with
  | .error e => .error (.schema (.definition e))
  | .ok c =>
    let (f, ids) := c.toField s.ids
    .ok (f, { s with ids }.note f.id)

/-- The lookup key a specification gives; a foreign key creates and numbers its field. -/
def keyOf (s : Session) : KeySpec → Except StepError (LookupKey × Session)
  | .text t => .ok (.text t, s)
  | .name n =>
    match n.toName with
    | .ok n => .ok (.name n, s)
    | .error e => .error (.name e)
  | .index i => .ok (.index i, s)
  | .column schema column => (s.columnAt schema column).map fun f => (.field f, s)
  | .foreign j => (s.createFromDefinition j).map fun (f, s) => (.field f, s)
  | .invalid reason => .error (.badRequest reason)

/-- The field a builder item contributes. -/
def itemField (s : Session) : ItemSpec → Except StepError (Field × Session)
  | .reuse schema column exposure => do
    let f ← s.columnAt schema column
    match ← Given.require exposure with
    | .asIs => .ok (f, s)
    | .valueType t =>
      match f.coerceTo t with
      | .ok g => .ok (g, s)
      | .error m => .error (.mismatch m none)
    | .dataType text =>
      match DataType.parse text with
      | .error e => .error (.dataType e)
      | .ok d =>
        match f.coerceToDataType d with
        | .ok g => .ok (g, s)
        | .error m => .error (.mismatch m none)
  | .new j => s.createFromDefinition j
  | .declared n text =>
    match n.toName with
    | .error e => .error (.name e)
    | .ok name => do
      let text ← Given.require text
      match DataType.parse text with
      | .error e => .error (.dataType e)
      | .ok d =>
        let (f, ids) := Field.ofDataType s.ids name d
        .ok (f, { s with ids }.note f.id)
  | .invalid reason => .error (.badRequest reason)

/-- The fields of all builder items in order; numbers given out before a failure are kept. -/
def itemFields (s : Session) : List ItemSpec → List Field → Session × Except StepError (List Field)
  | [], acc => (s, .ok acc.reverse)
  | item :: items, acc =>
    match s.itemField item with
    | .ok (f, s) => itemFields s items (f :: acc)
    | .error e => (s, .error e)

/-- The data types of the column triples, in order and all before any name is checked; each
triple is looked at when its turn comes. -/
def columnTypes : List (Given (List String × String × String)) →
    Except StepError (List (List String × ValueType × DataType))
  | [] => .ok []
  | col :: rest =>
    match Given.require col with
    | .error e => .error e
    | .ok (parts, vt, dt) =>
      match DataType.parse dt with
      | .error e => .error (.dataType e)
      | .ok d => (columnTypes rest).map ((parts, ValueType.ofText vt, d) :: ·)

/-- The lookup keys of specifications, built in order up to the first failure; fields that
foreign keys created before a failure keep their numbers. -/
def keysOf (s : Session) : List KeySpec → Session × Except StepError (List LookupKey)
  | [] => (s, .ok [])
  | spec :: specs =>
    match s.keyOf spec with
    | .error e => (s, .error e)
    | .ok (k, s) =>
      match keysOf s specs with
      | (s, .error e) => (s, .error e)
      | (s, .ok ks) => (s, .ok (k :: ks))

/-- Runs a lookup on a schema with a key built in the session. -/
def lookup (s : Session) (schema : Option Nat) (key : KeySpec)
    (k : Session → Schema → LookupKey → Except StepError Answer) : Session × Except StepError Answer :=
  match s.schemaAt schema with
  | .error e => (s, .error e)
  | .ok sc =>
    match s.keyOf key with
    | .error e => (s, .error e)
    | .ok (key, s) => (s, k s sc key)

/-- Runs a lookup that may refuse a coercion; the refusal carries the events. -/
def coercing (r : Traced (Except TypeMismatch (Option Field))) (s : Session) :
    Except StepError Answer :=
  match r.value with
  | .ok f => .ok (.field (f.map s.numbered) r.events)
  | .error m => .error (.mismatch m (some r.events))

/-- Runs one step. -/
def run (s : Session) : Step → Session × Except StepError Answer
  | .json text =>
    match SchemaDefinition.ofText text with
    | .error e => (s, .error (.schema (.definition e)))
    | .ok d =>
      let (sc, ids) := d.build s.ids
      let (s, a) := { s with ids }.add sc
      (s, .ok a)
  | .value j =>
    match SchemaDefinition.ofJson j with
    | .error e => (s, .error (.schema (.definition e)))
    | .ok d =>
      let (sc, ids) := d.build s.ids
      let (s, a) := { s with ids }.add sc
      (s, .ok a)
  | .empty =>
    let (s, a) := s.add Schema.empty
    (s, .ok a)
  | .columns cols =>
    match columnTypes cols with
    | .error e => (s, .error e)
    | .ok typed =>
      match Schema.ofColumns s.ids typed with
      | .error e => (s, .error (.schema e))
      | .ok (sc, ids) =>
        let (s, a) := { s with ids }.add sc
        (s, .ok a)
  | .builder collation policy items =>
    match s.itemFields items [] with
    | (s, .error e) => (s, .error e)
    | (s, .ok fs) =>
      let (s, a) := s.add { fields := fs, collation, policy }
      (s, .ok a)
  | .withPolicy schema policy =>
    match s.schemaAt schema, Given.require policy with
    | .error e, _ => (s, .error e)
    | .ok _, .error e => (s, .error e)
    | .ok sc, .ok policy =>
      let (s, a) := s.add (sc.withPolicy policy)
      (s, .ok a)
  | .clone schema =>
    match s.schemaAt schema with
    | .error e => (s, .error e)
    | .ok sc =>
      let (s, a) := s.add sc
      (s, .ok a)
  | .describe schema => (s, (s.schemaAt schema).map fun sc => .described (s.view sc))
  | .eq schema other =>
    (s, do
      let a ← s.schemaAt schema
      let b ← s.schemaAt (← Given.require other)
      .ok (.equal (a.equiv b)))
  | .fieldAt schema index =>
    (s, do
      let sc ← s.schemaAt schema
      let index ← Given.require index
      .ok (.fieldAt ((sc.fieldAt? index).map s.numbered)))
  | .same a b =>
    match s.keysOf [a, b] with
    | (s, .error e) => (s, .error e)
    | (s, .ok ks) =>
      match ks.map LookupKey.field? with
      | [some f, some g] => (s, .ok (.same (f.isSame g)))
      | _ => (s, .error (.badRequest "same compares two field keys"))
  | .resolve schema key =>
    s.lookup schema key fun _ sc k =>
      let r := sc.resolve k
      .ok (.resolved r.value r.events)
  | .field schema key =>
    s.lookup schema key fun s sc k =>
      let r := sc.field k
      .ok (.field (r.value.map s.numbered) r.events)
  | .indexOf schema key =>
    s.lookup schema key fun _ sc k =>
      let r := sc.indexOf k
      .ok (.index r.value r.events)
  | .typeOf schema key =>
    s.lookup schema key fun _ sc k =>
      let r := sc.typeOf k
      .ok (.valueType r.value r.events)
  | .dataTypeOf schema key =>
    s.lookup schema key fun _ sc k =>
      let r := sc.dataTypeOf k
      .ok (.dataType r.value r.events)
  | .fieldAs schema key t =>
    s.lookup schema key fun s sc k =>
      match Given.require t with
      | .error e => .error e
      | .ok t => coercing (sc.fieldAs k t) s
  | .fieldAsDataType schema key text =>
    s.lookup schema key fun s sc k =>
      match Given.require text with
      | .error e => .error e
      | .ok text =>
        match DataType.parse text with
        | .error e => .error (.dataType e)
        | .ok d => coercing (sc.fieldAsDataType k d) s
  | .fieldsOf schema keys =>
    match s.schemaAt schema with
    | .error e => (s, .error e)
    | .ok sc =>
      match Given.require keys with
      | .error e => (s, .error e)
      | .ok keys =>
        match s.keysOf keys with
        | (s, .error e) => (s, .error e)
        | (s, .ok ks) =>
          let r := sc.fieldsOf ks
          (s, .ok (.fields (r.value.map s.numbered) r.events))
  | .invalid reason => (s, .error (.badRequest reason))

/-- Runs steps in order, collecting every answer. -/
def runAll (s : Session) : List Step → List (Except StepError Answer)
  | [] => []
  | step :: steps =>
    let (s, a) := s.run step
    a :: runAll s steps

end Session

end RecordSchema
