import RecordSchema.Json.Value
import RecordSchema.Decimal.Shortest
/-!
# Writing JSON

The compact written form of a JSON value: no white space, object entries in their stored
order. In strings a double quote and a backslash are escaped by a backslash, the controls
backspace, form feed, line feed, carriage return and tab by their short escapes, the other
controls below U+0020 as `\u00XX` with lowercase hex digits, and every other character is
written as it is.

A double is written with its shortest decimal digits (`Decimal.BinaryForm.shortest`):
positionally with a `.0` when it is an integer below 10^16, positionally when its decimal
exponent lies between -5 and 16, and otherwise in scientific form `d.ddde±x` without a plus
sign; zero is `0.0` and the sign of a negative double is kept. Messages use the same layout
with a plus sign on a positive exponent (`shortestText`).
-/

namespace RecordSchema

namespace Json

/-- The lowercase hexadecimal digit of a number below 16. -/
def hexDigit (n : Nat) : Char :=
  if n < 10 then Char.ofNat (48 + n) else Char.ofNat (87 + n)

/-- The escaped form of one character inside a JSON string. -/
def escapeChar (c : Char) : List Char :=
  if c = '"' then ['\\', '"']
  else if c = '\\' then ['\\', '\\']
  else if c = '\n' then ['\\', 'n']
  else if c = '\r' then ['\\', 'r']
  else if c = '\t' then ['\\', 't']
  else if c.toNat = 8 then ['\\', 'b']
  else if c.toNat = 12 then ['\\', 'f']
  else if c.toNat < 32 then ['\\', 'u', '0', '0', hexDigit (c.toNat / 16), hexDigit (c.toNat % 16)]
  else [c]

/-- A string as a JSON string literal. -/
def quote (s : String) : String :=
  String.ofList ('"' :: s.toList.flatMap escapeChar ++ ['"'])

/-- Zero characters `0`, `n` times. -/
def zeros (n : Nat) : String := String.ofList (List.replicate n '0')

/-- The shortest digits of a finite double laid out positionally when its decimal point falls
between -5 and 16 places after the first digit, with `.0` on an integer, and otherwise in
scientific form `d.ddde-x`; `plusExponent` says whether a positive exponent is written with a
`+`. Infinities and NaN have no such layout and are written as `orElse`. -/
def shortestText (plusExponent : Bool) (orElse : String) (x : Float) : String :=
  match Decimal.BinaryForm.ofFloat x with
  | none => orElse
  | some b =>
    let sign := if b.negative then "-" else ""
    if b.significand = 0 then sign ++ "0.0"
    else
      let (d, t) := b.shortest
      let ds := (Nat.toDigits 10 d)
      let n : Int := ds.length
      let kk := n + t
      let exponent := kk - 1
      let mark := if plusExponent && 0 < exponent then "e+" else "e"
      let body :=
        if 0 ≤ t && kk ≤ 16 then String.ofList ds ++ zeros t.toNat ++ ".0"
        else if 0 < kk && kk ≤ 16 then
          String.ofList (ds.take kk.toNat) ++ "." ++ String.ofList (ds.drop kk.toNat)
        else if -5 < kk && kk ≤ 0 then "0." ++ zeros (-kk).toNat ++ String.ofList ds
        else
          match ds with
          | [c] => String.singleton c ++ mark ++ toString exponent
          | c :: rest => String.singleton c ++ "." ++ String.ofList rest ++ mark ++ toString exponent
          | [] => "0.0"
      sign ++ body

/-- The written form of a double in JSON: a positive exponent has no sign, and infinities and
NaN, which JSON cannot hold, are `null`. -/
def floatText (x : Float) : String := shortestText false "null" x

/-- The written form of a number. -/
def numberText : JsonNumber → String
  | .natural n => toString n
  | .negative n => toString n
  | .float x => floatText x

mutual
/-- The compact written form of a JSON value. -/
def write : Json → String
  | .null => "null"
  | .bool true => "true"
  | .bool false => "false"
  | .number n => numberText n
  | .string s => quote s
  | .array items => "[" ++ writeItems items ++ "]"
  | .object entries => "\x7b" ++ writeEntries entries ++ "\x7d"

/-- The written items of an array, separated by commas. -/
def writeItems : List Json → String
  | [] => ""
  | [j] => write j
  | j :: rest => write j ++ "," ++ writeItems rest

/-- The written entries of an object, separated by commas. -/
def writeEntries : List (String × Json) → String
  | [] => ""
  | [(k, j)] => quote k ++ ":" ++ write j
  | (k, j) :: rest => quote k ++ ":" ++ write j ++ "," ++ writeEntries rest
end

example : write (.object [("a", .array [.string "x\"\n\x01", .null, .bool true])]) =
    "\x7b\"a\":[\"x\\\"\\n\\u0001\",null,true]\x7d" := by decide

end Json

end RecordSchema
