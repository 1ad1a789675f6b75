import RecordSchema.Json.Error
/-!
# Reading JSON numbers

A number is read as a natural number while it is an integer that fits in 64 bits, as a
negative integer while it fits in 64 bits (zero and integers below -2^63 excepted), and as a
double otherwise. Digits beyond 64 bits are counted into the decimal exponent, and so are
lost. The double is made from the integer significand and the decimal exponent in two
roundings: the significand to the nearest double, then one multiplication or division by
the double nearest to the power of ten. An exponent beyond 308 on a nonzero significand
divides by 10^308 step by step, and a product that overflows is refused as out of range.

Faults are placed as a reader that has consumed the offending character would place them:
after it, or one byte into it when it takes several bytes.
-/

namespace RecordSchema

namespace Json

/-- The largest 64-bit natural number. -/
def maxNatural : Nat := 18446744073709551615

/-- The largest 32-bit integer. -/
def maxExponent : Int := 2147483647

/-- An exponent clamped to the 32-bit integers. -/
def clampExponent (e : Int) : Int := max (-maxExponent - 1) (min maxExponent e)

/-- The double nearest to `10^k`. -/
def powerOfTen (k : Nat) : Float := Float.ofScientific 1 false k

/-- Scales a double by a power of ten, dividing by 10^308 while the exponent is below -308;
`none` when the result overflows. Each division by 10^308 takes a double from below 2^64 to
zero within three steps, so eight steps always suffice. -/
def scaleByPowerOfTen : Nat → Float → Int → Option Float
  | 0, f, _ => some f
  | fuel + 1, f, e =>
    if e.natAbs ≤ 308 then
      if 0 ≤ e then
        let g := f * powerOfTen e.natAbs
        if g.isInf then none else some g
      else some (f / powerOfTen e.natAbs)
    else if f == 0 then some f
    else if 0 ≤ e then none
    else scaleByPowerOfTen fuel (f / powerOfTen 308) (e + 308)

/-- The double of a significand below 2^64 and a decimal exponent, with its sign. -/
def doubleOfParts (positive : Bool) (significand : Nat) (e : Int) : Option Float :=
  (scaleByPowerOfTen 8 (UInt64.ofNat significand).toFloat e).map
    fun f => if positive then f else -f

/-- A read result: the value and the cursor after it. -/
abbrev Reading (α : Type) := Except ReadError (α × Cursor)

/-- A fault at a position. -/
def fault {α : Type} (f : SyntaxFault) (p : Position) : Except ReadError α := .error ⟨f, p⟩

/-- The value of an ASCII digit. -/
def digitOf (c : Char) : Nat := c.toNat - 48

/-- The double of parts, or an out-of-range fault where the number ends. -/
def finishDouble (positive : Bool) (significand : Nat) (e : Int) (c : Cursor) : Reading JsonNumber :=
  match doubleOfParts positive significand e with
  | some f => .ok (.float f, c)
  | none => fault .numberTooLarge c.position

/-- Skips digits, at most `fuel` of them. -/
def skipDigits : Nat → Cursor → Cursor
  | 0, c => c
  | fuel + 1, c =>
    match c.rest with
    | ch :: _ => if ch.isDigit then skipDigits fuel c.advance else c
    | [] => c

/-- Reads the digits of an exponent after its first one; an exponent that outgrows 32 bits
makes the number zero, or out of range when the significand is nonzero and the exponent
positive. -/
def readExponentDigits (positive : Bool) (significand : Nat) (start : Int) (expPositive : Bool) :
    Nat → Nat → Cursor → Reading JsonNumber
  | 0, _, c => fault .badNumber c.position
  | fuel + 1, acc, c =>
    match c.rest with
    | ch :: _ =>
      if ch.isDigit then
        let c' := c.advance
        let next := 10 * acc + digitOf ch
        if maxExponent < next then
          if significand ≠ 0 && expPositive then fault .numberTooLarge c'.position
          else .ok (.float (if positive then 0.0 else -0.0), skipDigits c'.rest.length c')
        else readExponentDigits positive significand start expPositive fuel next c'
      else
        finishDouble positive significand
          (clampExponent (if expPositive then start + acc else start - acc)) c
    | [] =>
      finishDouble positive significand
        (clampExponent (if expPositive then start + acc else start - acc)) c

/-- Reads an exponent; the cursor stands on the `e` or `E`. -/
def readExponent (positive : Bool) (significand : Nat) (start : Int) (c : Cursor) :
    Reading JsonNumber :=
  let c := c.advance
  let (expPositive, c) :=
    match c.rest with
    | '+' :: _ => (true, c.advance)
    | '-' :: _ => (false, c.advance)
    | _ => (true, c)
  match c.rest with
  | [] => fault .endInValue c.position
  | ch :: _ =>
    if ch.isDigit then
      readExponentDigits positive significand start expPositive c.rest.length (digitOf ch) c.advance
    else fault .badNumber c.nextPosition

/-- Whether the next character starts an exponent. -/
def startsExponent (c : Cursor) : Bool :=
  match c.rest with
  | ch :: _ => ch = 'e' || ch = 'E'
  | [] => false

/-- Skips fraction digits that no longer fit the significand, then reads an exponent if one
follows. -/
def readDroppedDigits (positive : Bool) (sig : Nat) (e : Int) (fuel : Nat) (c : Cursor) :
    Reading JsonNumber :=
  let c := skipDigits fuel c
  if startsExponent c then readExponent positive sig e c else finishDouble positive sig e c

/-- Reads the digits of a fraction into the significand while it fits in 64 bits, `count`
digits taken so far; a fraction needs at least one digit. -/
def readFractionDigits (positive : Bool) (e : Int) : Nat → Nat → Nat → Cursor → Reading JsonNumber
  | 0, _, _, c => fault .badNumber c.position
  | fuel + 1, sig, count, c =>
    match c.rest with
    | ch :: _ =>
      if ch.isDigit then
        let next := 10 * sig + digitOf ch
        if maxNatural < next then readDroppedDigits positive sig (e - count) fuel c
        else readFractionDigits positive e fuel next (count + 1) c.advance
      else if count = 0 then fault .badNumber c.nextPosition
      else if ch = 'e' || ch = 'E' then readExponent positive sig (e - count) c
      else finishDouble positive sig (e - count) c
    | [] => if count = 0 then fault .endInValue c.position else finishDouble positive sig (e - count) c

/-- Reads a fraction; the cursor stands on the point. -/
def readFraction (positive : Bool) (sig : Nat) (e : Int) (c : Cursor) : Reading JsonNumber :=
  readFractionDigits positive e c.rest.length sig 0 c.advance

/-- Reads integer digits that no longer fit the significand: each raises the exponent. -/
def readExcessDigits (positive : Bool) (sig : Nat) : Int → Nat → Cursor → Reading JsonNumber
  | _, 0, c => fault .badNumber c.position
  | e, fuel + 1, c =>
    match c.rest with
    | ch :: _ =>
      if ch.isDigit then readExcessDigits positive sig (e + 1) fuel c.advance
      else if ch = '.' then readFraction positive sig e c
      else if ch = 'e' || ch = 'E' then readExponent positive sig e c
      else finishDouble positive sig e c
    | [] => finishDouble positive sig e c

/-- The integer read so far as a number: a natural number, a negative integer, or a double
for negative zero and for integers below -2^63. -/
def integerValue (positive : Bool) (sig : Nat) : JsonNumber :=
  if positive then .natural sig
  else if sig = 0 then .float (-0.0)
  else if sig ≤ Nat.pow 2 63 then .negative (-(sig : Int))
  else .float (-(UInt64.ofNat sig).toFloat)

/-- Continues after the integer part: a fraction, an exponent, or the end of the number. -/
def afterInteger (positive : Bool) (sig : Nat) (c : Cursor) : Reading JsonNumber :=
  match c.rest with
  | ch :: _ =>
    if ch = '.' then readFraction positive sig 0 c
    else if ch = 'e' || ch = 'E' then readExponent positive sig 0 c
    else .ok (integerValue positive sig, c)
  | [] => .ok (integerValue positive sig, c)

/-- Reads the digits of the integer part while they fit in 64 bits. -/
def readIntegerDigits (positive : Bool) : Nat → Nat → Cursor → Reading JsonNumber
  | 0, sig, c => afterInteger positive sig c
  | fuel + 1, sig, c =>
    match c.rest with
    | ch :: _ =>
      if ch.isDigit then
        let next := 10 * sig + digitOf ch
        if maxNatural < next then readExcessDigits positive sig 0 (c.rest.length + 1) c
        else readIntegerDigits positive fuel next c.advance
      else afterInteger positive sig c
    | [] => afterInteger positive sig c

/-- Reads a number after its sign: a single `0` or digits without a leading zero, then an
optional fraction and exponent. -/
def readNumber (positive : Bool) (c : Cursor) : Reading JsonNumber :=
  match c.rest with
  | [] => fault .endInValue c.position
  | ch :: _ =>
    if ch = '0' then
      let c := c.advance
      match c.rest with
      | d :: _ => if d.isDigit then fault .badNumber c.nextPosition else afterInteger positive 0 c
      | [] => afterInteger positive 0 c
    else if ch.isDigit then readIntegerDigits positive c.rest.length (digitOf ch) c.advance
    else fault .badNumber c.nextPosition

end Json

end RecordSchema
