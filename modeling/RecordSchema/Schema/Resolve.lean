import RecordSchema.Schema.Basic
import RecordSchema.Name.Parse
/-!
# Resolving references to fields

A reference to a column is a lookup key: a field itself, a name, a text to be read as a name,
or a position. Resolution tries tiers in order and stops at the first that finds a field:

* `identity`: the first field with the key field's identity;
* `exact`: the first field whose name equals the key's name under the schema's collation;
* `partial`: for a qualified key name, the first field whose name and the key's name agree
  part by part from the right, as far as the shorter reaches;
* `simple`: the first field whose simple name equals the key's simple name;
* `position`: for a position key, the field at that position.

A field key tries identity and then the tiers of its name; a name key tries exact, partial
and simple; a text key that reads as a qualified name tries partial and simple, one that reads
as a single part tries simple with that part, and one that does not read tries simple with
the text itself. When more than one field meets the partial or simple tier, the first is
chosen and an ambiguity event lists every candidate; no other tier reports ambiguity.
-/

namespace RecordSchema

/-- A reference to a column of a schema. -/
inductive LookupKey where
  /-- The column with this field's identity, else the column named like it. -/
  | field (f : Field)
  /-- The column with this name. -/
  | name (n : Name)
  /-- The column named by this text, read as a name where it can be. -/
  | text (s : String)
  /-- The column at this position. -/
  | index (i : Nat)

/-- How a reference was resolved. -/
inductive MatchTier where
  | identity
  | exact
  /-- The partial tier: names agree from the right. -/
  | suffix
  | simple
  | position
  deriving DecidableEq, Repr

/-- The place of a tier in the order of declaration, which is the order tiers are tried in:
identity, exact, partial, simple, then position. -/
def MatchTier.rank : MatchTier → Nat
  | .identity => 0
  | .exact => 1
  | .suffix => 2
  | .simple => 3
  | .position => 4

/-- Tiers are ordered as declared. -/
instance : LT MatchTier := ⟨fun a b => a.rank < b.rank⟩

instance (a b : MatchTier) : Decidable (a < b) := inferInstanceAs (Decidable (a.rank < b.rank))

/-- The name of a tier in reports. -/
def MatchTier.name : MatchTier → String
  | .identity => "identity"
  | .exact => "exact"
  | .suffix => "partial"
  | .simple => "simple"
  | .position => "position"

/-- A resolved reference: the position of the field and the tier that found it. -/
structure Match where
  index : Nat
  tier : MatchTier
  deriving DecidableEq, Repr

/-- A reference that more than one field met at its tier: the key as written, the tier, the
chosen position and all candidate positions in increasing order. -/
structure AmbiguousMatch where
  key : String
  tier : MatchTier
  chosen : Nat
  candidates : List Nat
  deriving DecidableEq, Repr

/-- The key as written in ambiguity events: a field key by its name, a name key by its written
form, a text key as given. -/
def LookupKey.display : LookupKey → String
  | .field f => f.name.display
  | .name n => n.display
  | .text s => s
  | .index i => s!"[{i}]"

/-- The field a key stands for, when it stands for one. -/
def LookupKey.field? : LookupKey → Option Field
  | .field f => some f
  | _ => none

/-- A result together with the ambiguity events met while computing it. -/
structure Traced (α : Type) where
  value : α
  events : List AmbiguousMatch := []

namespace Schema

/-- The positions of the fields that meet a test, in increasing order. -/
def positionsWhere (s : Schema) (p : Field → Bool) : List Nat :=
  ((List.range s.fields.length).zip s.fields).filterMap fun (i, f) => if p f then some i else none

/-- The first field meeting a test at a tier, with an event when others meet it too. -/
def firstMatch (s : Schema) (key : LookupKey) (tier : MatchTier) (p : Field → Bool) :
    Traced (Option Match) :=
  match s.positionsWhere p with
  | [] => ⟨none, []⟩
  | [i] => ⟨some ⟨i, tier⟩, []⟩
  | i :: rest => ⟨some ⟨i, tier⟩, [⟨key.display, tier, i, i :: rest⟩]⟩

/-- The simple tier: the first field whose simple name matches. -/
def matchSimple (s : Schema) (key : LookupKey) (simple : String) : Traced (Option Match) :=
  s.firstMatch key .simple fun f => s.collation.partEq f.simple simple

/-- The tiers of a name: exact when asked for, then partial for a qualified name, then simple. -/
def matchName (s : Schema) (key : LookupKey) (n : Name) (exact : Bool) : Traced (Option Match) :=
  let exactHit := if exact then s.fields.findIdx? (fun f => f.name.equiv n s.collation) else none
  match exactHit with
  | some i => ⟨some ⟨i, .exact⟩, []⟩
  | none =>
    let partialHit : Traced (Option Match) :=
      if n.isQualified then s.firstMatch key .suffix fun f => f.name.suffixEquiv n s.collation
      else ⟨none, []⟩
    if partialHit.value.isSome then partialHit else s.matchSimple key n.simple

/-- Resolves a reference to a position and the tier that found it, with the ambiguity events
met on the way. -/
def resolve (s : Schema) (key : LookupKey) : Traced (Option Match) :=
  match key with
  | .index i => ⟨if i < s.degree then some ⟨i, .position⟩ else none, []⟩
  | .field f =>
    match s.fields.findIdx? (fun g => g.id == f.id) with
    | some i => ⟨some ⟨i, .identity⟩, []⟩
    | none => s.matchName key f.name true
  | .name n => s.matchName key n true
  | .text t =>
    match Name.parse t with
    | .ok n => if n.isQualified then s.matchName key n false else s.matchSimple key n.simple
    | .error _ => s.matchSimple key t

/-- The field a reference resolves to. -/
def field (s : Schema) (key : LookupKey) : Traced (Option Field) :=
  let r := s.resolve key
  ⟨r.value.bind fun m => s.fieldAt? m.index, r.events⟩

/-- The position a reference resolves to. -/
def indexOf (s : Schema) (key : LookupKey) : Traced (Option Nat) :=
  let r := s.resolve key
  ⟨r.value.map (·.index), r.events⟩

/-- The value type of the field a reference resolves to. -/
def typeOf (s : Schema) (key : LookupKey) : Traced (Option ValueType) :=
  let r := s.field key
  ⟨r.value.map (·.valueType), r.events⟩

/-- The data type of the field a reference resolves to. -/
def dataTypeOf (s : Schema) (key : LookupKey) : Traced (Option DataType) :=
  let r := s.field key
  ⟨r.value.map (·.dataType), r.events⟩

/-- The field a reference resolves to, read as another value type. -/
def fieldAs (s : Schema) (key : LookupKey) (t : ValueType) :
    Traced (Except TypeMismatch (Option Field)) :=
  let r := s.field key
  ⟨match r.value with
    | none => .ok none
    | some f => (f.coerceTo t).map some, r.events⟩

/-- The field a reference resolves to, read as another data type. -/
def fieldAsDataType (s : Schema) (key : LookupKey) (d : DataType) :
    Traced (Except TypeMismatch (Option Field)) :=
  let r := s.field key
  ⟨match r.value with
    | none => .ok none
    | some f => (f.coerceToDataType d).map some, r.events⟩

/-- The fields that a list of references resolve to, in order; references that resolve to
nothing are dropped. -/
def fieldsOf (s : Schema) : List LookupKey → Traced (List Field)
  | [] => ⟨[], []⟩
  | k :: ks =>
    let r := s.field k
    let rest := s.fieldsOf ks
    ⟨r.value.toList ++ rest.value, r.events ++ rest.events⟩

end Schema

end RecordSchema
