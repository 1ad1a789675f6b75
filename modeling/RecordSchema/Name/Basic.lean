import RecordSchema.Collation
/-!
# Names

A name is a non-empty list of non-empty parts, outermost qualifier first, such as
`schema.table.column`; its last part is the simple name. The two invariants are fields of
the structure, so every name the library hands out has them.

Names are built from parts verbatim (`Name.new`), extended (`Name.append`) and cut
(`Name.qualifier`). Two names match under a collation when they have the same length and
their parts match pairwise; they match as suffixes when their parts match pairwise from the
right, as far as the shorter one reaches.
-/

namespace RecordSchema

/-- Why a list of parts or a text is not a name. -/
inductive NameError where
  /-- The name has no parts. -/
  | empty
  /-- The part at this index is empty. -/
  | emptyPart (index : Nat)
  /-- A quoted part that opens at this byte offset is never closed. -/
  | unterminatedQuote (offset : Nat)
  /-- This character may not stand at this byte offset. -/
  | unexpectedCharacter (found : Char) (offset : Nat)
  deriving DecidableEq, Repr

/-- The text of a name error. -/
def NameError.message : NameError → String
  | .empty => "name is empty"
  | .emptyPart index => s!"name part {index} is empty"
  | .unterminatedQuote offset => s!"unterminated quoted identifier starting at offset {offset}"
  | .unexpectedCharacter found offset => s!"unexpected character '{found}' at offset {offset}"

/-- A possibly qualified identifier: a non-empty list of non-empty parts. -/
structure Name where
  /-- The parts, outermost qualifier first. -/
  parts : List String
  parts_ne_nil : parts ≠ []
  part_ne_empty : ∀ p ∈ parts, p ≠ ""

namespace Name

@[ext]
theorem ext {a b : Name} (h : a.parts = b.parts) : a = b := by
  cases a; cases b; cases h; rfl

instance : DecidableEq Name := fun a b =>
  if h : a.parts = b.parts then isTrue (ext h) else isFalse (fun e => h (e ▸ rfl))

/-- The index of the first empty part, if there is one. -/
def firstEmptyPart? (parts : List String) : Option Nat := parts.findIdx? (· == "")

/-- Builds a name from its parts verbatim: the first empty part is refused by its index, and
an empty list as a whole. -/
def new (parts : List String) : Except NameError Name :=
  match h : firstEmptyPart? parts with
  | some index => .error (.emptyPart index)
  | none =>
    if hn : parts = [] then .error .empty
    else .ok ⟨parts, hn, fun p hp he => by
      simp only [firstEmptyPart?, List.findIdx?_eq_none_iff] at h
      have hne := h p hp
      simp [he] at hne⟩

/-- A name's own parts make that name. -/
theorem new_parts (n : Name) : new n.parts = .ok n := by
  have hnone : firstEmptyPart? n.parts = none := by
    rw [firstEmptyPart?, List.findIdx?_eq_none_iff]
    intro p hp
    simpa using n.part_ne_empty p hp
  unfold new
  split
  · rename_i h
    rw [hnone] at h
    cases h
  · rw [dif_neg n.parts_ne_nil]

/-- A name of one part, taken verbatim without reading dots or quotes. -/
def unqualified (part : String) : Except NameError Name := new [part]

/-- The number of parts. -/
def length (n : Name) : Nat := n.parts.length

/-- Whether the name has a qualifier, that is more than one part. -/
def isQualified (n : Name) : Bool := 1 < n.parts.length

/-- The last part. -/
def simple (n : Name) : String := n.parts.getLast n.parts_ne_nil

/-- The name without its last part, when it has more than one part. -/
def qualifier (n : Name) : Option Name :=
  if h : n.parts.dropLast = [] then none
  else some ⟨n.parts.dropLast, h, fun p hp => n.part_ne_empty p (List.dropLast_subset _ hp)⟩

/-- The name extended by one more part; an empty part is refused with the index it would
have had. -/
def append (n : Name) (part : String) : Except NameError Name :=
  if hp : part = "" then .error (.emptyPart n.parts.length)
  else .ok ⟨n.parts ++ [part], by simp, fun p hmem => by
    rcases List.mem_append.1 hmem with h | h
    · exact n.part_ne_empty p h
    · rw [List.mem_singleton.1 h]; exact hp⟩

/-- Equality of two names under a collation: same length, parts pairwise matching. -/
def equiv (a b : Name) (c : Collation) : Bool :=
  a.parts.length == b.parts.length && (a.parts.zip b.parts).all fun (x, y) => c.partEq x y

/-- Whether the shorter of two names matches the end of the longer one under a collation:
the parts are compared pairwise from the right. -/
def suffixEquiv (a b : Name) (c : Collation) : Bool :=
  (a.parts.reverse.zip b.parts.reverse).all fun (x, y) => c.partEq x y

/-- The lexicographic order of part lists, each part ordered by code points, a proper prefix
first. For valid text, code point order is the order of the UTF-8 bytes. -/
def comparePartLists : List String → List String → Ordering
  | [], [] => .eq
  | [], _ :: _ => .lt
  | _ :: _, [] => .gt
  | a :: as, b :: bs =>
    match compare a b with
    | .eq => comparePartLists as bs
    | o => o

instance : Ord Name := ⟨fun a b => comparePartLists a.parts b.parts⟩

end Name

end RecordSchema
