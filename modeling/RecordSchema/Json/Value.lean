/-!
# JSON values

A JSON value as read from text. Numbers keep the class they were read as: a natural number
that fits in 64 bits, a negative integer that fits in 64 bits, or a double for everything
else (a fraction, an exponent, or an integer too large). Objects keep their entries in the
order written, duplicates included; `Json.mapEntries` gives the view of an object as a map,
ordered by key with the last of equal keys winning.
-/

namespace RecordSchema

/-- A JSON number, classified as it was read. -/
inductive JsonNumber where
  /-- A nonnegative integer below 2^64. -/
  | natural (n : Nat)
  /-- A negative integer of at least -2^63. -/
  | negative (n : Int)
  /-- Any other number, as the nearest double. -/
  | float (x : Float)

/-- A JSON value. -/
inductive Json where
  | null
  | bool (b : Bool)
  | number (n : JsonNumber)
  | string (s : String)
  | array (items : List Json)
  | object (entries : List (String × Json))
  deriving Inhabited

namespace Json

/-- The entries of an object as a map: ordered by key, the last of equal keys kept. -/
def mapEntries (entries : List (String × Json)) : List (String × Json) :=
  let unique := entries.foldl (fun acc e => acc.filter (·.1 != e.1) ++ [e]) []
  unique.mergeSort (fun a b => decide (a.1 ≤ b.1))

/-- The value of a key in an object, the last entry winning; `none` for other values. -/
def field? (j : Json) (key : String) : Option Json :=
  match j with
  | .object entries => (entries.reverse.find? (·.1 == key)).map (·.2)
  | _ => none

end Json

end RecordSchema
